import TableDesk.Proofs.Input.Bindings
import TableDesk.Proofs.Session.Change

/-!
What the user confirms is what is checked. A dialog takes the checked tables and its text at the moment it is
made, while the page and the catalog live on. Under the reports of a terminal they stay as they are until the
dialog is gone, because no key gets past it.
-/

namespace TableDesk.Session

variable {ρ : Type}

/-- A dialog over the page that can be confirmed offers what is checked now, and asks about it in the language
that is in use now. -/
def OffersChecked (s : Session ρ) : Prop :=
  ∀ d submission, s.modal.current = some d → d.pending = some submission →
    submission = s.page.form.submission ∧ submission.values ≠ [] ∧
      s.catalog.resolve s.wording.confirmBody [submission.joined] = .ok d.body

theorem offersChecked_of_current_none {s : Session ρ} (h : s.modal.current = none) : s.OffersChecked := by
  intro d submission hd
  rw [h] at hd
  contradiction

/-- A notice has nothing to offer. -/
theorem offersChecked_of_notice {s : Session ρ} {title body close : String}
    (h : s.modal.current = some (.notice title body close)) : s.OffersChecked := by
  intro d submission hd hp
  obtain rfl : Dialog.notice title body close = d := Option.some.inj (h.symm.trans hd)
  contradiction

variable [TableStore ρ]

/-- A change keeps the offer to what is checked if requests past an open dialog are held back. -/
theorem Change.offersChecked {s t : Session ρ} {r : Request} (h : Change s r t)
    (hr : s.modal.isOpen = true → r = .nothing ∨ ∃ request, r = .modal request) (hs : s.OffersChecked) :
    t.OffersChecked := by
  have hclosed : r ≠ .nothing → (∀ request, r ≠ .modal request) → s.modal.current = none := by
    intro hn hm
    cases ho : s.modal.isOpen with
    | false => exact ModalSlot.current_of_not_isOpen ho
    | true =>
      rcases hr ho with h | ⟨request, h⟩
      · exact absurd h hn
      · exact absurd h (hm request)
  cases h with
  | told => exact hs
  | quit => exact hs
  -- the page or the catalog changes only while nothing lies over the page
  | paged | refreshed | translated =>
    exact offersChecked_of_current_none (hclosed (by simp) (by simp))
  | asked hd =>
    intro d submission hc hp
    obtain rfl := Option.some.inj ((s.modal.current_present _).symm.trans hc)
    exact Confirmation.dialog_offer hd hp
  | focused _ move =>
    intro d submission hc hp
    exact hs d submission ((s.modal.current_moveFocus move).symm.trans hc) hp
  | closed | deleted | broken => exact offersChecked_of_current_none ModalSlot.current_empty
  | helped => exact offersChecked_of_current_none s.modal.current_showHelp
  | complained title body close => exact offersChecked_of_notice (s.modal.current_showError title body close)
  | refused title close => exact offersChecked_of_notice (ModalSlot.current_showError title _ close .empty)

theorem Reachable.offersChecked {s : Session ρ} (h : Reachable EventMove s) : s.OffersChecked := by
  induction h with
  | start hs =>
    obtain ⟨catalog, tables, -, -, rfl⟩ := start_eq_ok hs
    exact offersChecked_of_current_none ModalSlot.current_empty
  | @step s t _ hm ih =>
    cases hm with
    | answer e =>
      refine (s.update_change _).offersChecked ?_ ih
      intro ho
      rw [ho]
      exact Input.requestOf_true e
    | elapse => exact ih

/-- In a session that reports of the terminal lead to, a dialog that can be confirmed offers the submission of
the form as it is now, which is not empty, and its body is the question of the catalog as it is now with
exactly the checked names filled in. -/
theorem confirms_what_is_checked {s : Session ρ} (h : Reachable EventMove s) {d : Dialog}
    (ho : s.modal.current = some d) (hc : d.hasConfirm = true) :
    d.pending = some s.page.form.submission ∧ s.page.form.checkedValues ≠ [] ∧
      ∃ template, s.catalog.get? Message.Key.deleteConfirmBody.name = some template ∧
        d.body = Text.formatMessage template [", ".intercalate s.page.form.checkedValues] := by
  obtain ⟨submission, hp⟩ : ∃ submission, d.pending = some submission := by
    obtain ⟨offer, hoffer⟩ := Option.isSome_iff_exists.1 hc
    exact ⟨offer.2, by rw [Dialog.pending, hoffer]; rfl⟩
  obtain ⟨rfl, hne, hb⟩ := h.offersChecked d submission ho hp
  have hw : s.wording = .deletion := (h.mono fun _ _ => EventMove.requestMove).wording
  rw [hw] at hb
  obtain ⟨template, ht, hb⟩ := Message.Catalog.exists_of_resolve_eq_ok hb
  exact ⟨hp, hne, template, ht, hb⟩

/-- Two tables in memory, the second of which is checked with the keyboard, and then the key for deletion. -/
def keyAsked : Session MemoryTables :=
  let tables := [⟨some "P", "A", some 3⟩, ⟨some "Q", "B", none⟩]
  let press (code : Input.KeyCode) : Input.Event := .key ⟨code, .none, .press⟩
  (run [press .down, press .enter, press .down, press (.char ' '), press .delete]
    (fresh .english none Message.Language.english.builtIn tables ⟨tables⟩ .empty)).state

theorem keyAsked_reachable : Reachable EventMove keyAsked := (Reachable.fresh EventMove .english rfl .empty).run _

/-- The dialog that asks whether the second table is to be deleted. -/
def keyAskedDialog : Dialog :=
  .confirmation "Delete tables"
    "The following tables and all of their data will be deleted: B. This cannot be undone."
    "Delete" "Close" ⟨"ao-tables", "delete", ["B"]⟩

theorem keyAsked_confirms_what_is_checked :
    Reachable EventMove keyAsked ∧ keyAsked.modal.current = some keyAskedDialog ∧
      keyAskedDialog.pending = some keyAsked.page.form.submission := by
  have hd : keyAsked.modal.current = some keyAskedDialog := by rfl
  exact ⟨keyAsked_reachable, hd, (confirms_what_is_checked keyAsked_reachable hd rfl).1⟩

end TableDesk.Session
