import TableDesk.Dialog
import TableDesk.Message.Catalog
import TableDesk.Outcome

/-!
Confirmation before a form is submitted. Activating the form's trigger only shows a dialog: a notice
if nothing is checked, otherwise a question that carries the submission. Confirming takes the dialog
away first and then delivers what it carried, so nothing is delivered twice. All messages are looked
up before the dialog's place is touched.
-/

namespace TableDesk

/-- A receiver of confirmed submissions. -/
class SubmitTarget (σ : Type) where
  /-- Delivers a submission. -/
  submit : Submission → σ → Outcome Fault σ Unit

namespace Confirmation

/-- What an activation, a confirmation or a dismissal led to. -/
inductive Phase where
  | idle
  | noSelectionShown
  | confirmationShown
  | submitted
  deriving DecidableEq, Repr

/-- The names of the messages in the dialogs. -/
structure Wording where
  noSelectionTitle : String
  noSelectionBody : String
  confirmTitle : String
  confirmBody : String
  confirmLabel : String
  closeLabel : String
  deriving DecidableEq, Repr

def Wording.deletion : Wording where
  noSelectionTitle := Message.Key.deleteNoneTitle.name
  noSelectionBody := Message.Key.deleteNoneBody.name
  confirmTitle := Message.Key.deleteConfirmTitle.name
  confirmBody := Message.Key.deleteConfirmBody.name
  confirmLabel := Message.Key.deleteConfirmAction.name
  closeLabel := Message.Key.dialogClose.name

/-- The dialog for a form. The first message that is missing makes it fail, the closing label
before all others. -/
def dialog (wording : Wording) (form : Form) (catalog : Message.Catalog) : Except Fault Dialog := do
  let close ← catalog.text wording.closeLabel
  let submission := form.submission
  if submission.values.isEmpty then
    let title ← catalog.text wording.noSelectionTitle
    let body ← catalog.text wording.noSelectionBody
    return .notice title body close
  else
    let title ← catalog.text wording.confirmTitle
    let body ← catalog.resolve wording.confirmBody [submission.joined]
    let label ← catalog.text wording.confirmLabel
    return .confirmation title body label close submission

/-- What is logged while the dialog for a form is made: nothing if not even the closing label is
known. -/
def dialogLog (wording : Wording) (form : Form) (catalog : Message.Catalog) : List Log.Record :=
  if !catalog.contains wording.closeLabel then []
  else if form.checkedValues.isEmpty then
    [⟨.debug, .confirmation, s!"Delete on form {form.id} with nothing checked"⟩]
  else
    [⟨.debug, .confirmation,
      s!"Asking to confirm {form.action} on {form.submission.joined}"⟩]

def phaseOf (d : Dialog) : Phase :=
  if d.hasConfirm then .confirmationShown else .noSelectionShown

variable {σ : Type}

/-- Shows a dialog after taking away the one that is shown. -/
def replace [DialogHost σ] (d : Dialog) (s : σ) : σ :=
  let s := if (DialogHost.current s).isSome then (DialogHost.withdraw s).2 else s
  DialogHost.present d s

/-- The form's trigger. A failure leaves the place of the dialogs as it was. -/
def activate [DialogHost σ] (wording : Wording) (form : Form) (catalog : Message.Catalog) (s : σ) :
    Outcome Fault σ Phase :=
  let log := dialogLog wording form catalog
  match dialog wording form catalog with
  | .error e => ⟨.error e, s, log⟩
  | .ok d => ⟨.ok (phaseOf d), replace d s, log⟩

/-- The confirming button: takes the dialog away, then delivers its submission. -/
def confirm [DialogHost σ] [SubmitTarget σ] (s : σ) : Outcome Fault σ Phase :=
  match DialogHost.withdraw s with
  | (d, s) =>
    match d.bind Dialog.pending with
    | none => ⟨.ok .idle, s, []⟩
    | some submission =>
      let note := ⟨.info, .confirmation,
        s!"Submitting {submission.action} on form {submission.formId}: {submission.joined}"⟩
      let o := SubmitTarget.submit submission s
      ⟨o.answer.map fun _ => .submitted, o.state, note :: o.log⟩

def dismiss [DialogHost σ] (s : σ) : σ := (DialogHost.withdraw s).2

end Confirmation

end TableDesk
