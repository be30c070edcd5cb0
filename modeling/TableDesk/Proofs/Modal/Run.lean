import Mathlib.Data.List.Basic
import Mathlib.Data.List.Induction
import TableDesk.Proofs.Modal

/-!
Runs of the place over the page. A dialog stays there until something else is shown or it is taken away, and all that
moves until then is its focus. So what is withdrawn is what was shown last, unless something has come in between, and of
all dialogs shown each is handed over once at most. The focus of a dialog is on one of its buttons from the start, and
moving it to the next button and to the one before take each other back.
-/

namespace TableDesk.ModalSlot

inductive Op where
  | present (d : Dialog)
  | showHelp
  | showError (title message closeLabel : String)
  | close
  | withdraw
  | focusNext
  | focusPrevious
  deriving DecidableEq, Repr

/-- What an operation hands over, and the place after it. -/
def Op.run : Op → ModalSlot → Option Dialog × ModalSlot
  | .present d, slot => (none, slot.present d)
  | .showHelp, slot => (none, slot.showHelp)
  | .showError title message closeLabel, slot => (none, slot.showError title message closeLabel)
  | .close, slot => (none, slot.close)
  | .withdraw, slot => slot.withdraw
  | .focusNext, slot => (none, slot.focusNext)
  | .focusPrevious, slot => (none, slot.focusPrevious)

def run (ops : List Op) (slot : ModalSlot) : ModalSlot := ops.foldl (fun slot o => (o.run slot).2) slot

@[simp] theorem run_nil (slot : ModalSlot) : run [] slot = slot := rfl

@[simp] theorem run_cons (o : Op) (ops : List Op) (slot : ModalSlot) : run (o :: ops) slot = run ops (o.run slot).2 := rfl

theorem run_concat (ops : List Op) (o : Op) (slot : ModalSlot) : run (ops ++ [o]) slot = (o.run (run ops slot)).2 :=
  List.foldl_append

def handedOver : List Op → ModalSlot → List Dialog
  | [], _ => []
  | o :: rest, slot => (o.run slot).1.toList ++ handedOver rest (o.run slot).2

/-! ### The dialog that is shown -/

def Op.shown : Op → Option Dialog
  | .present d => some d
  | .showError title message closeLabel => some (.notice title message closeLabel)
  | .showHelp | .close | .withdraw | .focusNext | .focusPrevious => none

def Op.replaces : Op → Bool
  | .present _ | .showError .. | .showHelp | .close | .withdraw => true
  | .focusNext | .focusPrevious => false

theorem Op.shown_of_not_replaces {o : Op} (h : o.replaces = false) : o.shown = none := by
  cases o with
  | focusNext | focusPrevious => rfl
  | present | showHelp | showError | close | withdraw => contradiction

/-- What is shown after an operation is what the operation shows, or what was shown before it. -/
theorem Op.current_run (o : Op) (slot : ModalSlot) :
    (o.run slot).2.current = if o.replaces then o.shown else slot.current := by
  cases o with
  | present | showHelp | showError | close | withdraw => rfl
  | focusNext | focusPrevious => exact slot.current_moveFocus _

/-- The operations show a dialog, and nothing after that replaces or removes it. -/
def StillShown (ops : List Op) (d : Dialog) : Prop :=
  ∃ before o after, ops = before ++ o :: after ∧ o.shown = some d ∧ ∀ later ∈ after, later.replaces = false

theorem stillShown_concat_iff (ops : List Op) (o : Op) (d : Dialog) :
    StillShown (ops ++ [o]) d ↔ if o.replaces then o.shown = some d else StillShown ops d := by
  constructor
  · rintro ⟨before, shows, after, hops, hshown, hafter⟩
    rcases List.eq_nil_or_concat' after with rfl | ⟨rest, last, rfl⟩
    · obtain ⟨rfl, hlast⟩ := List.append_inj' hops rfl
      obtain rfl : o = shows := List.singleton_inj.1 hlast
      have hreplaces : o.replaces = true := by
        by_contra hkeeps
        rw [Op.shown_of_not_replaces (eq_false_of_ne_true hkeeps)] at hshown
        contradiction
      rwa [if_pos hreplaces]
    · rw [← List.cons_append, ← List.append_assoc] at hops
      obtain ⟨rfl, hlast⟩ := List.append_inj' hops rfl
      obtain rfl : o = last := List.singleton_inj.1 hlast
      rw [if_neg (by simp [hafter o (by simp)])]
      exact ⟨before, shows, rest, rfl, hshown, fun later hl => hafter later (List.mem_append_left _ hl)⟩
  · split
    · exact fun hshown => ⟨ops, o, [], rfl, hshown, by simp⟩
    next hkeeps =>
      rintro ⟨before, shows, after, rfl, hshown, hafter⟩
      refine ⟨before, shows, after ++ [o], by simp, hshown, ?_⟩
      simpa [or_imp, forall_and] using And.intro hafter hkeeps

theorem current_run_iff (ops : List Op) (d : Dialog) : (run ops .empty).current = some d ↔ StillShown ops d := by
  -- from the end, since the last operation that replaces anything decides
  induction ops using List.reverseRecOn with
  | nil => simp [StillShown]
  | append_singleton ops o ih =>
    rw [run_concat, Op.current_run, stillShown_concat_iff]
    split
    · rfl
    · exact ih

/-! ### What is handed over -/

/-- What an operation hands over and what is shown after it was shown before or is shown by it. -/
theorem Op.handed_append_current_sublist (o : Op) (slot : ModalSlot) :
    ((o.run slot).1.toList ++ (o.run slot).2.current.toList).Sublist (slot.current.toList ++ o.shown.toList) := by
  rw [o.current_run]
  cases o with
  | present | showError => exact List.sublist_append_right _ _
  | showHelp | close => exact List.nil_sublist _
  | withdraw => exact List.Sublist.refl _
  | focusNext | focusPrevious => exact List.sublist_append_left _ _

/-- Of the dialogs that are shown, one after the other, those that are handed over come in the same order. -/
theorem handedOver_sublist (ops : List Op) (slot : ModalSlot) :
    (handedOver ops slot).Sublist (slot.current.toList ++ ops.filterMap Op.shown) := by
  induction ops generalizing slot with
  | nil => exact List.nil_sublist _
  | cons o rest ih =>
    have hshown : (o :: rest).filterMap Op.shown = o.shown.toList ++ rest.filterMap Op.shown := by
      cases h : o.shown <;> simp [h]
    rw [handedOver, hshown, ← List.append_assoc]
    refine ((ih (o.run slot).2).append_left _).trans ?_
    rw [← List.append_assoc]
    exact (o.handed_append_current_sublist slot).append_right _

/-! ### The focus -/

/-- A dialog is shown with the focus on the button that closes it. -/
theorem getElem?_initialFocus (d : Dialog) : d.actions[initialFocus d]? = some ⟨d.closeLabel, .dismiss⟩ := by
  cases h : d.offer <;> simp [initialFocus, Dialog.actions, h, List.findIdx?_cons]

theorem focusedAction_present (slot : ModalSlot) (d : Dialog) : (slot.present d).focusedAction = some .dismiss := by
  simp [focusedAction, present, getElem?_initialFocus]

/-- The focus of a dialog that is shown is on one of its buttons. -/
def FocusFits (slot : ModalSlot) : Prop :=
  ∀ d focus, slot.active = some (.dialog d focus) → focus < d.actions.length

theorem focusFits_of_current_none {slot : ModalSlot} (h : slot.current = none) : slot.FocusFits := by
  intro d focus hactive
  rw [current, hactive] at h
  contradiction

theorem focusFits_present (slot : ModalSlot) (d : Dialog) : (slot.present d).FocusFits := by
  rintro other focus h
  obtain ⟨rfl, rfl⟩ := Modal.dialog.inj (Option.some.inj h)
  exact (List.getElem?_eq_some_iff.1 (getElem?_initialFocus d)).1

theorem FocusFits.moveFocus {slot : ModalSlot} (h : slot.FocusFits) (move : Nat → Nat → Nat) :
    (slot.moveFocus move).FocusFits := by
  cases hc : slot.current with
  | none => rwa [moveFocus_of_current_none hc]
  | some shown =>
    obtain ⟨focus, hactive⟩ := exists_active_of_current hc
    rw [moveFocus_of_active hactive]
    rintro d other hmoved
    obtain ⟨rfl, rfl⟩ := Modal.dialog.inj (Option.some.inj hmoved)
    exact Nat.mod_lt _ shown.length_actions_pos

theorem Op.run_focusFits (o : Op) {slot : ModalSlot} (h : slot.FocusFits) : (o.run slot).2.FocusFits := by
  cases o with
  | present d => exact focusFits_present slot d
  | showError title message closeLabel => exact focusFits_present slot _
  | showHelp | close | withdraw => exact focusFits_of_current_none rfl
  | focusNext | focusPrevious => exact h.moveFocus _

theorem run_focusFits (ops : List Op) {slot : ModalSlot} (h : slot.FocusFits) : (run ops slot).FocusFits := by
  induction ops generalizing slot with
  | nil => exact h
  | cons o rest ih => exact ih (o.run_focusFits h)

/-! ### Forward and backward -/

theorem focusPrevious_focusNext {slot : ModalSlot} (h : slot.FocusFits) : slot.focusNext.focusPrevious = slot := by
  cases hc : slot.current with
  | none => rw [focusNext, moveFocus_of_current_none hc, focusPrevious, moveFocus_of_current_none hc]
  | some d =>
    obtain ⟨focus, hactive⟩ := exists_active_of_current hc
    have hfocus : ((focus + 1) % d.actions.length + d.actions.length - 1) % d.actions.length = focus := by
      have hpos := d.length_actions_pos
      rw [Nat.add_sub_assoc hpos, Nat.mod_add_mod, Nat.add_assoc, Nat.add_sub_cancel' hpos, Nat.add_mod_right,
        Nat.mod_eq_of_lt (h d focus hactive)]
    rw [focusNext_of_active hactive, focusPrevious_of_active rfl, hfocus, ← hactive]

theorem focusNext_focusPrevious {slot : ModalSlot} (h : slot.FocusFits) : slot.focusPrevious.focusNext = slot := by
  cases hc : slot.current with
  | none => rw [focusPrevious, moveFocus_of_current_none hc, focusNext, moveFocus_of_current_none hc]
  | some d =>
    obtain ⟨focus, hactive⟩ := exists_active_of_current hc
    have hfocus : ((focus + d.actions.length - 1) % d.actions.length + 1) % d.actions.length = focus := by
      have hpos := d.length_actions_pos
      rw [Nat.mod_add_mod, Nat.sub_add_cancel (by omega), Nat.add_mod_right, Nat.mod_eq_of_lt (h d focus hactive)]
    rw [focusPrevious_of_active hactive, focusNext_of_active rfl, hfocus, ← hactive]

/-- The button in focus tells what it does. -/
theorem exists_focusedAction {slot : ModalSlot} (h : slot.FocusFits) {d : Dialog} {focus : Nat}
    (hactive : slot.active = some (.dialog d focus)) :
    ∃ action, d.actions[focus]? = some action ∧ slot.focusedAction = some action.kind := by
  have hget := List.getElem?_eq_getElem (h d focus hactive)
  exact ⟨_, hget, by rw [focusedAction, hactive]; simp [hget]⟩

/-- Whatever is done to the place over the page: the focus of a dialog that is shown is on one of its buttons, one of
which confirms exactly if there is a submission to confirm. A dialog is shown with the focus on the closing button.
Moving the focus to the next button and to the one before take each other back, and move nothing without a dialog. What
is withdrawn is the dialog shown last if nothing has replaced or removed it since, and nothing otherwise; so the dialogs
handed over are among those shown, in their order and no more often. -/
theorem hosts_one_dialog (ops : List Op) :
    let slot := run ops .empty
    (∀ d focus, slot.active = some (.dialog d focus) →
        focus < d.actions.length ∧
          (∃ action, d.actions[focus]? = some action ∧ slot.focusedAction = some action.kind) ∧
          ((∃ action ∈ d.actions, action.kind = .confirm) ↔ ∃ submission, d.pending = some submission) ∧
          slot.focusNext = ⟨some (.dialog d ((focus + 1) % d.actions.length))⟩ ∧
          slot.focusPrevious = ⟨some (.dialog d ((focus + d.actions.length - 1) % d.actions.length))⟩) ∧
      (slot.current = none → slot.focusNext = slot ∧ slot.focusPrevious = slot) ∧
      (slot.focusNext.focusPrevious = slot ∧ slot.focusPrevious.focusNext = slot) ∧
      (∀ d, (slot.present d).focusedAction = some .dismiss) ∧
      (∀ d, slot.withdraw.1 = some d ↔ StillShown ops d) ∧
      (handedOver ops .empty).Sublist (ops.filterMap Op.shown) := by
  intro slot
  have hfits : slot.FocusFits := run_focusFits ops (focusFits_of_current_none current_empty)
  refine ⟨fun d focus hactive => ?_, fun hnone => ?_, ?_, slot.focusedAction_present, current_run_iff ops,
    handedOver_sublist ops .empty⟩
  · exact ⟨hfits d focus hactive, exists_focusedAction hfits hactive, d.exists_confirm_iff,
      focusNext_of_active hactive, focusPrevious_of_active hactive⟩
  · exact ⟨moveFocus_of_current_none hnone _, moveFocus_of_current_none hnone _⟩
  · exact ⟨focusPrevious_focusNext hfits, focusNext_focusPrevious hfits⟩

/-- A question is lost behind the help, an error is withdrawn, and a second question has the focus moved to the
button that confirms it. -/
theorem second_question_is_hosted :
    let question : Dialog :=
      .confirmation "Delete tables" "Delete A?" "Delete" "Close" ⟨"ao-tables", "delete", ["A"]⟩
    let ops : List Op := [.present question, .showHelp, .withdraw, .showError "Error" "offline" "Close", .withdraw,
      .present question, .focusNext]
    let slot := run ops .empty
    (slot.active = some (.dialog question 0) ∧ slot.focusedAction = some .confirm ∧
        slot.focusNext = ⟨some (.dialog question 1)⟩) ∧
      (StillShown ops question ∧ slot.withdraw.1 = some question) ∧
      handedOver ops .empty = [.notice "Error" "offline" "Close"] ∧
      (handedOver ops .empty).Sublist [question, .notice "Error" "offline" "Close", question] := by
  intro question ops slot
  have hactive : slot.active = some (.dialog question 0) := by decide
  obtain ⟨hdialog, -, -, -, hwithdraw, hsublist⟩ := hosts_one_dialog ops
  obtain ⟨-, ⟨action, haction, hfocused⟩, -, hnext, -⟩ := hdialog question 0 hactive
  obtain rfl : ⟨"Delete", .confirm⟩ = action := Option.some.inj haction
  have hshown : StillShown ops question :=
    ⟨ops.take 5, .present question, [.focusNext], rfl, rfl, by simp [Op.replaces]⟩
  exact ⟨⟨hactive, hfocused, hnext⟩, ⟨hshown, (hwithdraw question).2 hshown⟩, by decide, hsublist⟩

end TableDesk.ModalSlot
