import TableDesk.Form

/-!
Dialogs as data, and the places that show them. A dialog has a title, a body, a button that closes
it and possibly a button that confirms a submission. A place shows one dialog at a time.
-/

namespace TableDesk

inductive ActionKind where
  | confirm
  | dismiss
  deriving DecidableEq, Repr

structure Action where
  label : String
  kind : ActionKind
  deriving DecidableEq, Repr

/-- A dialog. The label of its confirming button comes with the submission that the button
delivers. -/
structure Dialog where
  title : String
  body : String
  closeLabel : String
  offer : Option (String × Submission)
  deriving DecidableEq, Repr

namespace Dialog

/-- A dialog that can only be closed. -/
def notice (title body closeLabel : String) : Dialog := ⟨title, body, closeLabel, none⟩

def confirmation (title body confirmLabel closeLabel : String) (s : Submission) : Dialog :=
  ⟨title, body, closeLabel, some (confirmLabel, s)⟩

/-- The buttons, the confirming one first. -/
def actions (d : Dialog) : List Action :=
  (d.offer.map fun offer => Action.mk offer.1 .confirm).toList ++ [⟨d.closeLabel, .dismiss⟩]

/-- The submission that a confirmation would deliver. -/
def pending (d : Dialog) : Option Submission := d.offer.map (·.2)

def hasConfirm (d : Dialog) : Bool := d.offer.isSome

@[simp] theorem actions_notice (title body closeLabel : String) :
    (notice title body closeLabel).actions = [⟨closeLabel, .dismiss⟩] := rfl

@[simp] theorem actions_confirmation (title body confirmLabel closeLabel : String)
    (s : Submission) :
    (confirmation title body confirmLabel closeLabel s).actions =
      [⟨confirmLabel, .confirm⟩, ⟨closeLabel, .dismiss⟩] := rfl

end Dialog

/-- A place that shows dialogs. -/
class DialogHost (σ : Type) where
  /-- The dialog that is shown. -/
  current : σ → Option Dialog
  /-- Shows a dialog in the place of the one shown before. -/
  present : Dialog → σ → σ
  /-- Takes the dialog that is shown away and hands it over. -/
  withdraw : σ → Option Dialog × σ

/-- What is expected of a place that shows dialogs. -/
class LawfulDialogHost (σ : Type) [DialogHost σ] : Prop where
  current_present : ∀ (d : Dialog) (s : σ),
    DialogHost.current (DialogHost.present d s) = some d
  withdraw_fst : ∀ s : σ, (DialogHost.withdraw s).1 = DialogHost.current s
  current_withdraw : ∀ s : σ, DialogHost.current (DialogHost.withdraw s).2 = none

end TableDesk
