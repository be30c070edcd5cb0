import TableDesk.Proofs.Input.Bindings
import TableDesk.Proofs.Session.Deletion

/-!
What lies over the page isolates the page. Its keys reach nothing behind it: they close it or move the focus on it,
unless they confirm a dialog, and all other keys do nothing. With nothing over the page no key reaches the store.
-/

namespace TableDesk.Session

variable {ρ : Type} [TableStore ρ]

/-- A request to what lies over the page changes nothing else, unless it confirms an offer. -/
theorem exists_updateModal_eq {s : Session ρ} {request : ModalRequest}
    (h : s.Confirms (.modal request) → s.offered = none) : ∃ modal, s.updateModal request = done { s with modal } := by
  have hconfirm : s.Confirms (.modal request) → s.confirm = done { s with modal := .empty } :=
    fun hc => confirm_of_offered_none (h hc)
  unfold updateModal
  split
  · exact ⟨s.modal, rfl⟩
  · cases request with
    | close | submit | confirm => exact ⟨.empty, rfl⟩
    | nextAction | previousAction => exact ⟨s.modal, rfl⟩
  · cases request with
    | close => exact ⟨.empty, rfl⟩
    | nextAction => exact ⟨s.modal.focusNext, rfl⟩
    | previousAction => exact ⟨s.modal.focusPrevious, rfl⟩
    | submit =>
      simp only [updateDialog]
      split
      next hf => exact ⟨.empty, hconfirm (.inr ⟨rfl, hf⟩)⟩
      · exact ⟨.empty, rfl⟩
    | confirm =>
      simp only [updateDialog]
      split
      · exact ⟨.empty, hconfirm (.inl rfl)⟩
      · exact ⟨s.modal, rfl⟩

/-- The report confirms the dialog over the page, which offers a submission: by the key for it, or by the button in
focus. -/
def ConfirmedBy (s : Session ρ) (e : Input.Event) : Prop :=
  s.offered ≠ none ∧
    (e.presses [.char 'y'] = true ∨ e.presses [.plain .enter] = true ∧ s.modal.focusedAction = some .confirm)

omit [TableStore ρ] in
theorem confirms_requestOf_iff (s : Session ρ) (e : Input.Event) :
    s.Confirms (Input.requestOf true e) ↔
      e.presses [.char 'y'] = true ∨ e.presses [.plain .enter] = true ∧ s.modal.focusedAction = some .confirm := by
  rw [Confirms, Input.requestOf_eq_confirm_iff, Input.requestOf_eq_submit_iff]

omit [TableStore ρ] in
theorem offered_of_not_isOpen {s : Session ρ} (h : s.modal.isOpen = false) : s.offered = none := by
  rw [offered, ModalSlot.current_of_not_isOpen h, Option.bind_none]

/-- While something lies over the page, a report is answered without a failure and without a log record, and changes
nothing but what lies over the page, unless it confirms a dialog that offers a submission. While nothing does, no
report changes the store or the tables that it lists. -/
theorem open_modal_isolates_page (s : Session ρ) (e : Input.Event) :
    (s.modal.isOpen = true → ¬ s.ConfirmedBy e → ∃ modal, s.handle e = done { s with modal }) ∧
      (s.modal.isOpen = false → (s.handle e).state.store = s.store ∧
        TableStore.tables (s.handle e).state.store = TableStore.tables s.store) := by
  constructor
  · intro ho hc
    rw [handle, ho]
    rcases Input.requestOf_true e with hr | ⟨request, hr⟩
    · rw [hr]
      exact ⟨s.modal, rfl⟩
    · rw [hr, update]
      refine exists_updateModal_eq fun hconfirms => ?_
      rw [← hr, confirms_requestOf_iff] at hconfirms
      by_contra hoffered
      exact hc ⟨hoffered, hconfirms⟩
  · intro ho
    have hstore : (s.handle e).state.store = s.store := by
      refine update_store fun submission _ hs => ?_
      rw [offered_of_not_isOpen ho] at hs
      contradiction
    exact ⟨hstore, by rw [hstore]⟩

/-- The dialog of two checked tables holds back the keys that quit, list anew and switch the language. Without a
dialog the key for deletions deletes nothing. -/
theorem twoAsked_isolates_page :
    let press (modifiers : Input.Modifiers) (code : Input.KeyCode) : Input.Event := .key ⟨code, modifiers, .press⟩
    let desk : Session MemoryTables := { twoAsked with modal := .empty }
    (twoAsked.modal.isOpen = true ∧
      ∀ e ∈ [press .none (.char 'q'), press .altOnly (.char 'r'), press .altOnly (.char 'l'), press .none .enter],
        ¬ twoAsked.ConfirmedBy e ∧ ∃ modal, twoAsked.handle e = done { twoAsked with modal }) ∧
      desk.modal.isOpen = false ∧
        TableStore.tables (desk.handle (press .none .delete)).state.store = TableStore.tables desk.store := by
  intro press desk
  have hopen : twoAsked.modal.isOpen = true := by rfl
  refine ⟨⟨hopen, ?_⟩, rfl, ((open_modal_isolates_page desk _).2 rfl).2⟩
  intro e he
  have hkeys : ¬ (e.presses [.char 'y'] = true ∨
      e.presses [.plain .enter] = true ∧ twoAsked.modal.focusedAction = some .confirm) := by
    have hfocus : twoAsked.modal.focusedAction = some .dismiss := by rfl
    have hyes : ∀ e ∈ [press .none (.char 'q'), press .altOnly (.char 'r'), press .altOnly (.char 'l'),
        press .none .enter], e.presses [.char 'y'] = false := by decide
    simp [hfocus, hyes e he]
  have hnot : ¬ twoAsked.ConfirmedBy e := fun hc => hkeys hc.2
  exact ⟨hnot, (open_modal_isolates_page twoAsked e).1 hopen hnot⟩

end TableDesk.Session
