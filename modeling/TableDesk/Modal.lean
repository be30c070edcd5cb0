import TableDesk.Dialog

/-!
What lies over the page: a dialog with the focus on one of its buttons, or the help. A dialog that is
shown has the focus on the button that closes it.
-/

namespace TableDesk

/-- What lies over the page. -/
inductive Modal where
  | dialog (dialog : Dialog) (focus : Nat)
  | help
  deriving DecidableEq, Repr

structure ModalSlot where
  active : Option Modal
  deriving DecidableEq, Repr

namespace ModalSlot

def empty : ModalSlot := ⟨none⟩

def isOpen (slot : ModalSlot) : Bool := slot.active.isSome

def close (_ : ModalSlot) : ModalSlot := empty

def showHelp (_ : ModalSlot) : ModalSlot := ⟨some .help⟩

def current (slot : ModalSlot) : Option Dialog :=
  match slot.active with
  | some (.dialog d _) => some d
  | _ => none

/-- The button that a new dialog has in focus: the first one that closes it. -/
def initialFocus (d : Dialog) : Nat :=
  (d.actions.findIdx? (·.kind = .dismiss)).getD 0

def present (d : Dialog) (_ : ModalSlot) : ModalSlot := ⟨some (.dialog d (initialFocus d))⟩

/-- Shows an error, which can only be closed. -/
def showError (title message closeLabel : String) (slot : ModalSlot) : ModalSlot :=
  slot.present (.notice title message closeLabel)

/-- Takes away what lies over the page and hands over the dialog, if it was one. -/
def withdraw (slot : ModalSlot) : Option Dialog × ModalSlot := (slot.current, empty)

def focusedAction (slot : ModalSlot) : Option ActionKind :=
  match slot.active with
  | some (.dialog d focus) => d.actions[focus]?.map (·.kind)
  | _ => none

/-- Moves the focus, counted from the number of buttons, which is at least one. -/
def moveFocus (move : Nat → Nat → Nat) (slot : ModalSlot) : ModalSlot :=
  match slot.active with
  | some (.dialog d focus) =>
    let count := max d.actions.length 1
    ⟨some (.dialog d (move count focus % count))⟩
  | _ => slot

/-- Moves the focus to the next button, from the last to the first. -/
def focusNext (slot : ModalSlot) : ModalSlot := slot.moveFocus fun _ focus => focus + 1

/-- Moves the focus to the button before, from the first to the last. -/
def focusPrevious (slot : ModalSlot) : ModalSlot :=
  slot.moveFocus fun count focus => focus + count - 1

end ModalSlot

instance : DialogHost ModalSlot where
  current := ModalSlot.current
  present := ModalSlot.present
  withdraw := ModalSlot.withdraw

instance : LawfulDialogHost ModalSlot where
  current_present _ _ := rfl
  withdraw_fst _ := rfl
  current_withdraw _ := rfl

end TableDesk
