import TableDesk.Modal

/-!
What lies over the page after each operation on it, and what is left of it when its texts are taken away.
-/

namespace TableDesk

namespace ModalSlot

@[simp] theorem current_empty : empty.current = none := rfl

@[simp] theorem current_present (d : Dialog) (slot : ModalSlot) : (slot.present d).current = some d := rfl

@[simp] theorem current_showHelp (slot : ModalSlot) : slot.showHelp.current = none := rfl

@[simp] theorem current_showError (title message closeLabel : String) (slot : ModalSlot) :
    (slot.showError title message closeLabel).current = some (.notice title message closeLabel) := rfl

/-- Moving the focus leaves the dialog. -/
@[simp] theorem current_moveFocus (move : Nat → Nat → Nat) (slot : ModalSlot) :
    (slot.moveFocus move).current = slot.current := by
  unfold moveFocus
  split
  next d focus h => simp [current, h]
  · rfl

theorem current_of_not_isOpen {slot : ModalSlot} (h : slot.isOpen = false) : slot.current = none := by
  have hn : slot.active = none := by simpa [isOpen] using h
  unfold current
  rw [hn]

theorem exists_active_of_current {slot : ModalSlot} {d : Dialog} (h : slot.current = some d) :
    ∃ focus, slot.active = some (.dialog d focus) := by
  unfold current at h
  split at h
  next shown focus hactive => exact ⟨focus, Option.some.inj h ▸ hactive⟩
  · contradiction

end ModalSlot

/-! ### Texts taken away -/

/-- What lies over the page, without its texts. -/
inductive Modal.Outline where
  | dialog (buttons : List ActionKind) (pending : Option Submission) (focus : Nat)
  | help
  deriving DecidableEq, Repr

def Modal.outline : Modal → Outline
  | .dialog d focus => .dialog (d.actions.map (·.kind)) d.pending focus
  | .help => .help

/-- The buttons of a dialog are those of every dialog that offers as much. -/
theorem Dialog.map_kind_actions (d : Dialog) :
    d.actions.map (·.kind) = if d.pending.isSome then [.confirm, .dismiss] else [.dismiss] := by
  cases h : d.offer <;> simp [actions, pending, h]

/-- A dialog has a button that confirms exactly if it offers a submission. -/
theorem Dialog.exists_confirm_iff (d : Dialog) :
    (∃ action ∈ d.actions, action.kind = .confirm) ↔ ∃ submission, d.pending = some submission := by
  rw [← List.mem_map (f := Action.kind), d.map_kind_actions, ← Option.isSome_iff_exists]
  cases d.pending <;> simp

theorem Dialog.hasConfirm_eq (d : Dialog) : d.hasConfirm = d.pending.isSome := by
  simp [hasConfirm, pending]

theorem Dialog.length_actions_pos (d : Dialog) : 0 < d.actions.length := by
  simp [actions]

/-- A dialog that offers a submission has two buttons. -/
theorem Dialog.length_actions {d : Dialog} {submission : Submission} (h : d.pending = some submission) :
    d.actions.length = 2 := by
  rw [← List.length_map (f := Action.kind), d.map_kind_actions, h]
  rfl

namespace ModalSlot

def outline (slot : ModalSlot) : Option Modal.Outline := slot.active.map Modal.outline

/-- Two places of one outline both have nothing, or the help, or dialogs that offer the same with the focus on the
same button. -/
theorem outline_cases {a b : ModalSlot} (h : a.outline = b.outline) :
    a.active = none ∧ b.active = none ∨ a.active = some .help ∧ b.active = some .help ∨
      ∃ d d' focus, a.active = some (.dialog d focus) ∧ b.active = some (.dialog d' focus) ∧
        d.pending = d'.pending := by
  unfold outline at h
  cases ha : a.active with
  | none =>
    rw [ha] at h
    exact .inl ⟨rfl, Option.map_eq_none_iff.1 h.symm⟩
  | some modal =>
    rw [ha] at h
    obtain ⟨other, hb, ho⟩ := Option.map_eq_some_iff.1 h.symm
    cases modal with
    | help =>
      cases other with
      | help => exact .inr (.inl ⟨rfl, hb⟩)
      | dialog d focus => contradiction
    | dialog d focus =>
      cases other with
      | help => contradiction
      | dialog d' focus' =>
        obtain ⟨-, hp, rfl⟩ := Modal.Outline.dialog.inj ho
        exact .inr (.inr ⟨d, d', focus', rfl, hb, hp.symm⟩)

theorem outline_dialog {a b : ModalSlot} {d d' : Dialog} {focus : Nat} (ha : a.active = some (.dialog d focus))
    (hb : b.active = some (.dialog d' focus)) (h : d.pending = d'.pending) : a.outline = b.outline := by
  simp only [outline, ha, hb, Option.map_some, Modal.outline, Dialog.map_kind_actions, h]

theorem isOpen_of_outline {a b : ModalSlot} (h : a.outline = b.outline) : a.isOpen = b.isOpen := by
  rw [isOpen, isOpen, ← Option.isSome_map (f := Modal.outline), ← Option.isSome_map (f := Modal.outline)]
  exact congrArg Option.isSome h

theorem pending_of_outline {a b : ModalSlot} (h : a.outline = b.outline) :
    a.current.bind Dialog.pending = b.current.bind Dialog.pending := by
  rcases outline_cases h with ⟨ha, hb⟩ | ⟨ha, hb⟩ | ⟨d, d', focus, ha, hb, hp⟩
  · simp only [current, ha, hb]
  · simp only [current, ha, hb]
  · simpa only [current, ha, hb, Option.bind_some] using hp

theorem focusedAction_of_outline {a b : ModalSlot} (h : a.outline = b.outline) :
    a.focusedAction = b.focusedAction := by
  rcases outline_cases h with ⟨ha, hb⟩ | ⟨ha, hb⟩ | ⟨d, d', focus, ha, hb, hp⟩
  · simp only [focusedAction, ha, hb]
  · simp only [focusedAction, ha, hb]
  · simp only [focusedAction, ha, hb, ← List.getElem?_map, Dialog.map_kind_actions, hp]

theorem outline_moveFocus {a b : ModalSlot} (h : a.outline = b.outline) (move : Nat → Nat → Nat) :
    (a.moveFocus move).outline = (b.moveFocus move).outline := by
  rcases outline_cases h with ⟨ha, hb⟩ | ⟨ha, hb⟩ | ⟨d, d', focus, ha, hb, hp⟩
  · simpa only [moveFocus, ha, hb] using h
  · simpa only [moveFocus, ha, hb] using h
  · have hlen : d.actions.length = d'.actions.length := by
      rw [← List.length_map (f := Action.kind), d.map_kind_actions, hp, ← d'.map_kind_actions, List.length_map]
    simp only [moveFocus, ha, hb, hlen]
    exact outline_dialog rfl rfl hp

/-- A new dialog has the focus on the same button as every dialog that offers as much. -/
theorem outline_present {d d' : Dialog} (h : d.pending = d'.pending) (a b : ModalSlot) :
    (a.present d).outline = (b.present d').outline := by
  have hfocus : initialFocus d = initialFocus d' := by
    have hkind : ∀ d : Dialog, initialFocus d = ((d.actions.map (·.kind)).findIdx? (· = .dismiss)).getD 0 := by
      intro d
      rw [initialFocus, List.findIdx?_map]
      rfl
    rw [hkind, hkind, d.map_kind_actions, h, d'.map_kind_actions]
  unfold present
  rw [hfocus]
  exact outline_dialog rfl rfl h

/-! ### The focus of a dialog -/

section Buttons

variable {slot : ModalSlot} {d : Dialog} {focus : Nat}

/-- Every dialog has a button, so that the buttons are counted as they are. -/
theorem moveFocus_of_active (h : slot.active = some (.dialog d focus)) (move : Nat → Nat → Nat) :
    slot.moveFocus move = ⟨some (.dialog d (move d.actions.length focus % d.actions.length))⟩ := by
  have hcount : max d.actions.length 1 = d.actions.length := Nat.max_eq_left d.length_actions_pos
  simp only [moveFocus, h, hcount]

theorem focusNext_of_active (h : slot.active = some (.dialog d focus)) :
    slot.focusNext = ⟨some (.dialog d ((focus + 1) % d.actions.length))⟩ :=
  moveFocus_of_active h _

theorem focusPrevious_of_active (h : slot.active = some (.dialog d focus)) :
    slot.focusPrevious = ⟨some (.dialog d ((focus + d.actions.length - 1) % d.actions.length))⟩ :=
  moveFocus_of_active h _

/-- Without a dialog there is no focus to be moved. -/
theorem moveFocus_of_current_none (h : slot.current = none) (move : Nat → Nat → Nat) : slot.moveFocus move = slot := by
  unfold moveFocus
  split
  next d focus hactive =>
    rw [current, hactive] at h
    contradiction
  · rfl

end Buttons

/-! ### The focus of a dialog that offers a submission -/

section TwoButtons

variable {slot : ModalSlot} {d : Dialog} {focus : Nat} {submission : Submission}

/-- The first button confirms, the second one closes. -/
theorem focusedAction_eq (h : slot.active = some (.dialog d focus)) (hp : d.pending = some submission) :
    slot.focusedAction = [ActionKind.confirm, ActionKind.dismiss][focus]? := by
  simp only [focusedAction, h, ← List.getElem?_map, d.map_kind_actions, hp, Option.isSome_some, if_true]

theorem initialFocus_eq_one (hp : d.pending = some submission) : initialFocus d = 1 := by
  obtain ⟨offer, ho, -⟩ := Option.map_eq_some_iff.1 hp
  rw [initialFocus, Dialog.actions, ho]
  rfl

/-- Forward or backward, the focus moves to the other button. -/
theorem focusNext_eq (h : slot.active = some (.dialog d focus)) (hp : d.pending = some submission) :
    slot.focusNext = ⟨some (.dialog d ((focus + 1) % 2))⟩ := by
  rw [focusNext_of_active h, Dialog.length_actions hp]

theorem focusPrevious_eq (h : slot.active = some (.dialog d focus)) (hp : d.pending = some submission) :
    slot.focusPrevious = ⟨some (.dialog d ((focus + 1) % 2))⟩ := by
  rw [focusPrevious_of_active h, Dialog.length_actions hp]
  rfl

end TwoButtons

end ModalSlot

end TableDesk
