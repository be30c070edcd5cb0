import TableDesk.Proofs.Group
import TableDesk.Proofs.Session.Deletion
import TableDesk.Proofs.Session.Failure

/-!
The list on the page never drifts from the store. As long as nobody else touches the store, every request
leaves the page with the tables of the store, and a dialog offers only names that the store knows. A deletion
that is confirmed can fail only because the rest cannot be stored, and in memory it cannot fail at all.
-/

namespace TableDesk.Session

variable {ρ : Type} [TableStore ρ]

/-- A request is answered, or time goes by and others change the disk, while the store belongs to the session. -/
inductive OwnMove : Session ρ → Session ρ → Prop
  | answer (s : Session ρ) (r : Request) : OwnMove s (s.update r).state
  | elapse (s : Session ρ) (clock : Clock) (disk : Disk) : OwnMove s { s with clock, disk }

theorem OwnMove.requestMove {s t : Session ρ} (h : OwnMove s t) : RequestMove s t := by
  cases h with
  | answer r => exact .answer s r
  | elapse clock disk => exact .elapse s clock disk s.store

/-- The page shows the given tables, which are those of the store, and a dialog offers some of their names. -/
structure InStep (s : Session ρ) (tables : List Table) : Prop where
  listed : TableStore.tables s.store = .ok tables
  contents : s.page.contents = (Group.ofTables tables).map fun g => (g.plugin, g.tables)
  offered : ∀ submission, s.offered = some submission → ∀ name ∈ submission.values, name ∈ tables.map (·.name)

omit [TableStore ρ] in
/-- The listed names are those of the tables that the groups are made of. -/
theorem names_perm {p : Page} {tables : List Table}
    (h : p.contents = (Group.ofTables tables).map fun g => (g.plugin, g.tables)) :
    p.names.Perm (tables.map (·.name)) := by
  rw [Page.names, Page.listed_eq, h, List.flatMap_map]
  exact (Group.ofTables_perm tables).map _

omit [TableStore ρ] in
theorem mem_names_iff {p : Page} {tables : List Table}
    (h : p.contents = (Group.ofTables tables).map fun g => (g.plugin, g.tables)) (name : String) :
    name ∈ p.names ↔ name ∈ tables.map (·.name) :=
  (names_perm h).mem_iff

/-- After the tables are listed anew and the dialog is gone, page and store are in step. -/
theorem inStep_of_relisted [LawfulTableStore ρ] {t : Session ρ} {p : Page} (hp : t.page = relisted t.store p)
    (ho : t.offered = none) : ∃ tables, t.InStep tables := by
  obtain ⟨tables, ht⟩ := LawfulTableStore.exists_tables t.store
  refine ⟨tables, ht, ?_, ?_⟩
  · rw [hp, relisted, ht]
    exact p.setTables_contents tables
  · intro submission hs
    rw [ho] at hs
    contradiction

theorem Change.exists_inStep [LawfulTableStore ρ] {s t : Session ρ} {r : Request} (h : Change s r t)
    (hp : s.page.Reachable) {tables : List Table} (hs : s.InStep tables) : ∃ tables, t.InStep tables := by
  have hoffered : ∀ submission, t.offered = some submission →
      s.offered = some submission ∨ submission = s.page.form.submission ∧ submission.values ≠ [] :=
    fun _ => h.offered
  cases h with
  | told | quit | translated => exact ⟨tables, hs.listed, hs.contents, hs.offered⟩
  | paged request => exact ⟨tables, hs.listed, (request.run_ops_alike s.page).contents.trans hs.contents, hs.offered⟩
  | asked =>
    refine ⟨tables, hs.listed, hs.contents, ?_⟩
    intro submission ho name hn
    rcases hoffered submission ho with ho | ⟨rfl, -⟩
    · exact hs.offered submission ho name hn
    · -- a checked name is the value of an item, and the items are the listed tables
      obtain ⟨item, hi, hv, -⟩ := Form.mem_checkedValues.1 hn
      rw [← mem_names_iff hs.contents, ← hp.aligned]
      exact List.mem_map.2 ⟨item, hi, hv⟩
  | focused request move =>
    refine ⟨tables, hs.listed, hs.contents, ?_⟩
    intro submission ho
    unfold Session.offered at ho
    rw [ModalSlot.current_moveFocus] at ho
    exact hs.offered submission ho
  | closed | helped | complained => exact ⟨tables, hs.listed, hs.contents, fun _ ho => by contradiction⟩
  | refreshed status =>
    refine ⟨tables, hs.listed, ?_, hs.offered⟩
    simp only [relisted, hs.listed]
    exact s.page.setTables_contents tables
  | deleted | refused => exact inStep_of_relisted rfl rfl
  | broken _ _ ha =>
    -- the page is left as it was, and so are the tables of the store
    exact ⟨tables, (TableDeletion.tables_submit_error ha).trans hs.listed, hs.contents, fun _ ho => by contradiction⟩

theorem Reachable.exists_inStep [LawfulTableStore ρ] {s : Session ρ} (h : Reachable OwnMove s) :
    ∃ tables, s.InStep tables := by
  induction h with
  | start hs =>
    obtain ⟨catalog, tables, -, ht, rfl⟩ := start_eq_ok hs
    exact ⟨tables, ht, Page.empty.setTables_contents tables, fun _ ho => by contradiction⟩
  | @step s t hs hm ih =>
    obtain ⟨tables, hi⟩ := ih
    cases hm with
    | answer r => exact (s.update_change r).exists_inStep (hs.mono fun _ _ => OwnMove.requestMove).page hi
    | elapse => exact ⟨tables, hi.listed, hi.contents, hi.offered⟩

/-! ### Confirmed deletions -/

/-- A deletion of known names fails only because the rest cannot be stored. -/
theorem InStep.submit_error [LawfulTableStore ρ] {s : Session ρ} {tables : List Table} (h : s.InStep tables)
    {submission : Submission} (ho : s.offered = some submission) (hd : submission.IsDeletion) {e : Fault}
    (ha : (TableDeletion.submit submission s.store s.disk).answer = .error e) : ∃ detail, e = .storage detail := by
  rw [(TableDeletion.submit_deletion hd s.store s.disk).1] at ha
  rcases (LawfulTableStore.delete_error h.listed ha).2 with hr | hstorage
  · rw [remaining_of_forall_mem (h.offered submission ho)] at hr
    contradiction
  · exact hstorage

/-- After a deletion no dialog is open and nothing is checked. -/
theorem update_of_deleted [LawfulTableStore ρ] {s : Session ρ} (hc : s.catalog.Complete) {r : Request}
    {submission : Submission} (hr : s.Confirms r) (ho : s.offered = some submission)
    (ha : (TableDeletion.submit submission s.store s.disk).answer = .ok ()) :
    (s.update r).answer = .ok () ∧ (s.update r).state.modal.active = none ∧
      (s.update r).state.page.form.checkedValues = [] := by
  obtain ⟨text, -, hu⟩ := confirm_done hc ho ha
  rw [update_of_confirms hr ho, hu]
  refine ⟨rfl, rfl, ?_⟩
  obtain ⟨tables, ht⟩ := LawfulTableStore.exists_tables (s.delivered submission).store
  show (relisted (s.delivered submission).store s.page.clearChecked).form.checkedValues = []
  rw [relisted, ht]
  simp only [Page.setTables_checkedValues, Page.clearChecked, Form.clearChecked_checkedValues]
  exact List.filter_eq_nil_iff.2 fun _ _ h => by simp at h

/-- A deletion of known names from memory succeeds. -/
theorem InStep.submit_memory {s : Session MemoryTables} {tables : List Table} (h : s.InStep tables)
    {submission : Submission} (ho : s.offered = some submission) (hd : submission.IsDeletion) :
    (TableDeletion.submit submission s.store s.disk).answer = .ok () := by
  obtain rfl : s.store.tables = tables := Except.ok.inj h.listed
  rw [(TableDeletion.submit_deletion hd s.store s.disk).1]
  simp only [TableStore.delete, remaining_of_forall_mem (h.offered submission ho)]

/-- In a session that requests lead to while nobody else touches the store, the groups of the page are those
of the tables of the store, the items of the form are their names in the order of the groups, and a dialog
offers only names of the store. A confirmed deletion ends with no dialog and nothing checked, or fails because
the rest cannot be stored; over tables in memory it never fails. -/
theorem confirmed_deletion_is_never_stale :
    (∀ (ρ : Type) [TableStore ρ] [LawfulTableStore ρ] (s : Session ρ), Reachable OwnMove s →
      ∃ tables, TableStore.tables s.store = .ok tables ∧
        (s.page.groups.map fun g => (g.plugin, g.tables)) =
          ((Group.ofTables tables).map fun g => (g.plugin, g.tables)) ∧
        s.page.form.items.map (·.value) = (s.page.groups.flatMap (·.tables)).map (·.name) ∧
        ∀ submission, s.offered = some submission →
          (∀ name ∈ submission.values, name ∈ tables.map (·.name)) ∧
          ∀ r, s.Confirms r →
            match (TableDeletion.submit submission s.store s.disk).answer with
            | .ok () => (s.update r).answer = .ok () ∧ (s.update r).state.modal.active = none ∧
                (s.update r).state.page.form.checkedValues = []
            | .error e => ∃ detail, e = .storage detail) ∧
    ∀ s : Session MemoryTables, Reachable OwnMove s → ∀ submission, s.offered = some submission →
      ∀ r, s.Confirms r → (TableDeletion.submit submission s.store s.disk).answer = .ok () ∧
        (s.update r).answer = .ok () ∧ (s.update r).state.modal.active = none ∧
        (s.update r).state.page.form.checkedValues = [] := by
  constructor
  · intro ρ _ _ s h
    have hr : Reachable RequestMove s := h.mono fun _ _ => OwnMove.requestMove
    obtain ⟨tables, hi⟩ := h.exists_inStep
    refine ⟨tables, hi.listed, hi.contents, hr.page.aligned, ?_⟩
    intro submission ho
    refine ⟨hi.offered submission ho, ?_⟩
    intro r hc
    split
    next ha => exact update_of_deleted hr.complete hc ho ha
    next e ha => exact hi.submit_error ho (isDeletion_of_offered hr ho) ha
  · intro s h submission ho r hc
    have hr : Reachable RequestMove s := h.mono fun _ _ => OwnMove.requestMove
    obtain ⟨tables, hi⟩ := h.exists_inStep
    have ha := hi.submit_memory ho (isDeletion_of_offered hr ho)
    exact ⟨ha, update_of_deleted hr.complete hc ho ha⟩

/-- Tables in memory of which those of the first plugin are checked and asked to be deleted. While the dialog
is open the tables are listed anew and the language is switched. -/
def relistedAsked : Session MemoryTables :=
  let tables := [⟨none, "C", none⟩, ⟨some "P", "A", some 3⟩, ⟨some "Q", "D", none⟩, ⟨some "P", "B", none⟩]
  let s := fresh .english none Message.Language.english.builtIn tables (MemoryTables.mk tables) .empty
  let asked := ((s.update (.page .toggleCheck)).state.update (.page .delete)).state
  ((asked.update .refresh).state.update .cycleLanguage).state

theorem relistedAsked_reachable : Reachable OwnMove relistedAsked :=
  .step (.step (.step (.step (.fresh OwnMove .english rfl .empty) (.answer _ _)) (.answer _ _)) (.answer _ _))
    (.answer _ _)

theorem relistedAsked_is_never_stale :
    Reachable OwnMove relistedAsked ∧
      relistedAsked.page.form.items.map (·.value) = ["A", "B", "D", "C"] ∧
      relistedAsked.offered = some ⟨"ao-tables", "delete", ["A", "B"]⟩ ∧ relistedAsked.Confirms (.modal .confirm) ∧
      (relistedAsked.update (.modal .confirm)).answer = .ok () ∧
      (relistedAsked.update (.modal .confirm)).state.modal.active = none ∧
      (relistedAsked.update (.modal .confirm)).state.page.form.checkedValues = [] := by
  have ho : relistedAsked.offered = some ⟨"ao-tables", "delete", ["A", "B"]⟩ := by rfl
  have hc : relistedAsked.Confirms (.modal .confirm) := .inl rfl
  obtain ⟨tables, -, -, hvalues, -⟩ :=
    confirmed_deletion_is_never_stale.1 MemoryTables relistedAsked relistedAsked_reachable
  have hafter :=
    (confirmed_deletion_is_never_stale.2 relistedAsked relistedAsked_reachable _ ho (.modal .confirm) hc).2
  exact ⟨relistedAsked_reachable, hvalues.trans (by rfl), ho, hc, hafter⟩

end TableDesk.Session
