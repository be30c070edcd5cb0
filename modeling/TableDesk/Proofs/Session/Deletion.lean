import TableDesk.Proofs.Session.Audit

/-!
Tables are deleted only through a confirmed dialog. In a session that any requests lead to, a dialog offers
nothing but a deletion of at least one table; a request deletes exactly if it confirms such a dialog, once,
what the dialog offers, and after the dialog was taken away.
-/

namespace TableDesk

theorem Page.Reachable.form_id {p : Page} (h : p.Reachable) : p.form.id = TableDeletion.formId :=
  h.induct (P := fun p => p.form.id = TableDeletion.formId) rfl fun o p hp => (o.run_form_id p).trans hp

theorem Page.Reachable.form_action {p : Page} (h : p.Reachable) : p.form.action = TableDeletion.deleteAction :=
  h.induct (P := fun p => p.form.action = TableDeletion.deleteAction) rfl
    fun o p hp => (o.run_form_action p).trans hp

/-- A submission that asks for the deletion of at least one table. -/
structure Submission.IsDeletion (s : Submission) : Prop where
  formId : s.formId = TableDeletion.formId
  action : s.action = TableDeletion.deleteAction
  values : s.values ≠ []

/-- A deletion is delivered by one call to the store. -/
theorem TableDeletion.submit_deletion {ρ : Type} [TableStore ρ] {s : Submission} (h : s.IsDeletion) (store : ρ)
    (disk : Disk) :
    (submit s store disk).answer = (TableStore.delete s.values store disk).1 ∧
      (submit s store disk).state = (TableStore.delete s.values store disk).2 := by
  unfold submit
  rw [if_neg (by simp [h.formId, h.action])]
  rcases TableStore.delete s.values store disk with ⟨answer, after⟩
  cases answer <;> exact ⟨rfl, rfl⟩

namespace Session

variable {ρ : Type} [TableStore ρ]

/-! ### What is offered -/

/-- A dialog offers what it offered before, or what the form submits when the deletion is asked for. -/
theorem Change.offered {s t : Session ρ} {r : Request} (h : Change s r t) {submission : Submission}
    (ho : t.offered = some submission) :
    s.offered = some submission ∨ submission = s.page.form.submission ∧ submission.values ≠ [] := by
  cases h with
  | told | quit | paged | refreshed | translated => exact .inl ho
  | asked hd =>
    obtain ⟨he, hne, -⟩ := Confirmation.dialog_offer hd ho
    exact .inr ⟨he, hne⟩
  | focused request move =>
    left
    unfold Session.offered at ho
    rwa [ModalSlot.current_moveFocus] at ho
  | closed | helped | complained | deleted | refused | broken => contradiction

theorem isDeletion_of_offered {s : Session ρ} (h : Reachable RequestMove s) {submission : Submission}
    (ho : s.offered = some submission) : submission.IsDeletion := by
  induction h with
  | start hs =>
    obtain ⟨catalog, tables, -, -, rfl⟩ := start_eq_ok hs
    contradiction
  | @step s t hs hm ih =>
    cases hm with
    | answer r =>
      rcases (s.update_change r).offered ho with ho | ⟨rfl, hne⟩
      · exact ih ho
      · exact ⟨hs.page.form_id, hs.page.form_action, hne⟩
    | elapse => exact ih ho

/-! ### What is deleted -/

theorem delivered_store {s : Session ρ} {submission : Submission} (h : submission.IsDeletion) :
    (s.delivered submission).store = (TableStore.delete submission.values s.store s.disk).2.1 := by
  unfold delivered
  simp only [(TableDeletion.submit_deletion h s.store s.disk).2]

theorem confirm_store {s : Session ρ} {submission : Submission} (ho : s.offered = some submission) :
    s.confirm.state.store = (s.delivered submission).store := by
  obtain ⟨answer, page, status, modal, more, hc, -⟩ := exists_confirm_eq ho
  rw [hc]

/-- A request that confirms no offer leaves the store. -/
theorem update_store {s : Session ρ} {r : Request}
    (h : ∀ submission, s.Confirms r → s.offered ≠ some submission) : (s.update r).state.store = s.store := by
  have hchange := s.update_change r
  generalize (s.update r).state = t at hchange ⊢
  cases hchange with
  | told | quit | paged | asked | closed | focused | helped | refreshed | translated | complained => rfl
  | deleted status hc ho => exact absurd ho (h _ hc)
  | refused title close hc ho => exact absurd ho (h _ hc)
  | broken hc ho => exact absurd ho (h _ hc)

/-- A request that confirms an offer asks for its deletion, if it is one. -/
theorem deletions_of_confirms {s : Session ρ} {r : Request} (hc : s.Confirms r) {submission : Submission}
    (ho : s.offered = some submission) :
    s.deletions r = if submission.formId ≠ TableDeletion.formId ∨ submission.action ≠ TableDeletion.deleteAction
      then [] else [submission.values] := by
  have hca : s.audited.Confirms r := hc
  have hoa : s.audited.offered = some submission := ho
  rw [deletions, update_of_confirms hca hoa, confirm_store hoa]
  unfold delivered TableDeletion.submit
  split
  · rfl
  · simp only [TableStore.delete]
    rcases TableStore.delete submission.values s.audited.store.store s.audited.disk with ⟨answer, after, disk⟩
    cases answer <;> rfl

theorem deletions_of_not_confirms {s : Session ρ} {r : Request}
    (h : ∀ submission, s.Confirms r → s.offered ≠ some submission) : s.deletions r = [] := by
  have ha : ∀ submission, s.audited.Confirms r → s.audited.offered ≠ some submission := h
  rw [deletions, update_store ha]
  rfl

/-- In a session that requests lead to, either the answer to a request deletes nothing, or the request
confirms a dialog that offers the deletion of some tables: then exactly these are asked to be deleted, once,
after the dialog was taken away, and either they all are or none is. The deletions are counted by an account
that changes nothing else. -/
theorem deletes_only_confirmed [LawfulTableStore ρ] {s : Session ρ} (h : Reachable RequestMove s) (r : Request) :
    (s.audited.update r).unaudited = s.update r ∧
    ((s.deletions r = [] ∧ TableStore.tables (s.update r).state.store = TableStore.tables s.store) ∨
    ∃ submission tables, s.Confirms r ∧ s.offered = some submission ∧
      submission.values ≠ [] ∧ submission.formId = "ao-tables" ∧ submission.action = "delete" ∧
      s.deletions r = [submission.values] ∧
      s.update r = s.confirm ∧ Confirmation.confirmCalls s = [.withdraw, .submit submission] ∧
      TableStore.tables s.store = .ok tables ∧
      TableStore.tables (s.update r).state.store =
        match (TableStore.delete submission.values s.store s.disk).1 with
        | .ok () => .ok (tables.filter fun t => !submission.values.contains t.name)
        | .error _ => .ok tables) := by
  refine ⟨s.audited.update_unaudited r, ?_⟩
  by_cases hc : ∃ submission, s.Confirms r ∧ s.offered = some submission
  · right
    obtain ⟨submission, hc, ho⟩ := hc
    obtain ⟨tables, ht⟩ := LawfulTableStore.exists_tables s.store
    have hd := isDeletion_of_offered h ho
    refine ⟨submission, tables, hc, ho, hd.values, hd.formId, hd.action, ?_, update_of_confirms hc ho, ?_, ht, ?_⟩
    · have hca : s.audited.Confirms r := hc
      have hoa : s.audited.offered = some submission := ho
      rw [deletions, update_of_confirms hca hoa, confirm_store hoa, delivered_store hd]
      rfl
    · have hw : (DialogHost.withdraw s).1.bind Dialog.pending = some submission := ho
      rw [Confirmation.confirmCalls_eq, hw]
      rfl
    · rw [update_of_confirms hc ho, confirm_store ho, delivered_store hd]
      cases ha : (TableStore.delete submission.values s.store s.disk).1 with
      | ok => exact LawfulTableStore.tables_delete_ok ht ha
      | error e => exact (LawfulTableStore.delete_error ht ha).1
  · left
    have hn : ∀ submission, s.Confirms r → s.offered ≠ some submission :=
      fun submission hcr ho => hc ⟨submission, hcr, ho⟩
    have hna : ∀ submission, s.audited.Confirms r → s.audited.offered ≠ some submission := hn
    exact ⟨by rw [deletions, update_store hna]; rfl, by rw [update_store hn]⟩

/-- Two tables in memory, checked and asked to be deleted. -/
def twoAsked : Session MemoryTables :=
  let tables := [⟨some "P", "A", some 3⟩, ⟨some "P", "B", none⟩]
  let s := fresh .english none Message.Language.english.builtIn tables ⟨tables⟩ .empty
  ((s.update (.page .toggleCheck)).state.update (.page .delete)).state

theorem twoAsked_reachable : Reachable RequestMove twoAsked :=
  .step (.step (.fresh RequestMove .english rfl .empty) (.answer _ _)) (.answer _ _)

theorem twoAsked_deletes :
    Reachable RequestMove twoAsked ∧ twoAsked.deletions (.modal .confirm) = [["A", "B"]] ∧
      Confirmation.confirmCalls twoAsked = [.withdraw, .submit ⟨"ao-tables", "delete", ["A", "B"]⟩] ∧
      TableStore.tables (twoAsked.update (.modal .confirm)).state.store = .ok [] := by
  refine ⟨twoAsked_reachable, ?_⟩
  rcases (deletes_only_confirmed twoAsked_reachable (.modal .confirm)).2 with
    ⟨hnone, -⟩ | ⟨submission, tables, -, ho, -, -, -, hd, -, hcalls, ht, hafter⟩
  · exact absurd hnone (by decide)
  · obtain rfl : submission = ⟨"ao-tables", "delete", ["A", "B"]⟩ := Option.some.inj (ho.symm.trans (by rfl))
    refine ⟨hd, hcalls, hafter.trans ?_⟩
    obtain rfl : tables = [⟨some "P", "A", some 3⟩, ⟨some "P", "B", none⟩] := Except.ok.inj (ht.symm.trans (by rfl))
    rfl

end Session

end TableDesk
