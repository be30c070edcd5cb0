import TableDesk.Form
import TableDesk.Outcome
import TableDesk.Table.Store

/-!
The deletion of tables that a submitted form asks for.
-/

namespace TableDesk.TableDeletion

def formId : String := "ao-tables"

def deleteAction : String := "delete"

def failureRecord (e : Fault) : Log.Record :=
  if e.isExpected then ⟨.warn, .tableDeletion, s!"Delete rejected: {e.message}"⟩
  else ⟨.error, .tableDeletion, s!"Delete failed: {e.message}"⟩

/-- Carries out a submission of the form of tables; any other submission is refused. -/
def submit {ρ : Type} [TableStore ρ] (s : Submission) (store : ρ) (disk : Disk) :
    Outcome Fault (ρ × Disk) Unit :=
  if s.formId ≠ formId ∨ s.action ≠ deleteAction then
    ⟨.error (.submitFailed s!"unsupported action {s.action} on form {s.formId}"),
      (store, disk), []⟩
  else
    match TableStore.delete s.values store disk with
    | (.error e, after) => ⟨.error e, after, [failureRecord e]⟩
    | (.ok (), after) =>
      ⟨.ok (), after, [⟨.info, .tableDeletion, s!"Deleted tables: {s.joined}"⟩]⟩

end TableDesk.TableDeletion
