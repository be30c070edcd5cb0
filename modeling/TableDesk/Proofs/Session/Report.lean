import Mathlib.Data.List.Basic
import Mathlib.Data.List.Nodup
import Mathlib.Data.List.Perm.Subperm
import TableDesk.Proofs.Page.Checks
import TableDesk.Proofs.Session.Listing

/-!
The number in the report of a deletion. It counts the items that were checked, while the store gives up every table
whose name was among them. The items are at most as many as the tables, and as many only if each name was checked as
often as the store had it. Over tables with names of their own the report is always right; over all others a session
can come to report too few.
-/

namespace TableDesk

/-! ### Names taken from a list -/

section Names

variable {taken listed : List String}

theorem subperm_filter_mem (h : taken.Subperm listed) : taken.Subperm (listed.filter (· ∈ taken)) := by
  have hall : taken.filter (· ∈ taken) = taken := List.filter_eq_self.2 fun _ hn => decide_eq_true hn
  have hfilter := h.filter (· ∈ taken)
  rwa [hall] at hfilter

/-- As many names were taken as the list has of their kind exactly if each was taken as often as the list has it. -/
theorem length_eq_iff_of_subperm (h : taken.Subperm listed) :
    taken.length = (listed.filter (· ∈ taken)).length ↔ ∀ name ∈ taken, taken.count name = listed.count name := by
  have hcount : ∀ name ∈ taken, (listed.filter (· ∈ taken)).count name = listed.count name :=
    fun _ hn => List.count_filter (decide_eq_true hn)
  constructor
  · intro hlen name hn
    have hperm := (subperm_filter_mem h).perm_of_length_le (Nat.le_of_eq hlen.symm)
    rw [← hcount name hn, hperm.count_eq]
  · intro hsame
    refine List.Perm.length_eq (List.perm_iff_count.2 fun name => ?_)
    by_cases hn : name ∈ taken
    · rw [hsame name hn, hcount name hn]
    · have hnot : name ∉ listed.filter (· ∈ taken) := by simp [hn]
      rw [List.count_eq_zero_of_not_mem hn, List.count_eq_zero_of_not_mem hnot]

/-- A list loses as many tables as it has names among the ones that are deleted. -/
theorem length_sub_length_filter (tables : List Table) (names : List String) :
    tables.length - (tables.filter fun t => !names.contains t.name).length =
      ((tables.map (·.name)).filter (· ∈ names)).length := by
  have hsplit := List.length_eq_length_filter_add (l := tables) fun t => names.contains t.name
  have hnames : ((tables.map (·.name)).filter (· ∈ names)).length =
      (tables.filter fun t => names.contains t.name).length := by
    rw [List.filter_map, List.length_map]
    simp only [Function.comp_def, List.contains_eq_mem]
  omega

end Names

namespace Session

section Report

variable {ρ : Type} [TableStore ρ]

/-! ### What is offered -/

/-- A dialog offers each name at most as often as the store has it. -/
def OffersListed (s : Session ρ) (tables : List Table) : Prop :=
  ∀ submission, s.offered = some submission → submission.values.Subperm (tables.map (·.name))

/-- What is checked are some of the listed names, each at most as often as it is listed. -/
theorem InStep.checkedValues_subperm {s : Session ρ} {tables : List Table} (h : s.InStep tables)
    (hp : s.page.Reachable) : s.page.form.checkedValues.Subperm (tables.map (·.name)) := by
  have hsub : s.page.form.checkedValues.Sublist s.page.names := by
    rw [← hp.aligned]
    exact List.filter_sublist.map _
  exact hsub.subperm.trans (names_perm h.contents).subperm

/-- As long as a dialog offers something, the store is left alone. -/
theorem Change.store_eq {s t : Session ρ} {r : Request} (h : Change s r t) {submission : Submission}
    (ho : t.offered = some submission) : t.store = s.store := by
  cases h with
  | told | quit | paged | asked | focused | refreshed | translated => rfl
  | closed | helped | complained | deleted | refused | broken => contradiction

theorem Reachable.offersListed [LawfulTableStore ρ] {s : Session ρ} (h : Reachable OwnMove s) {tables : List Table}
    (ht : TableStore.tables s.store = .ok tables) : s.OffersListed tables := by
  induction h with
  | start hs =>
    obtain ⟨catalog, others, -, -, rfl⟩ := start_eq_ok hs
    intro submission ho
    contradiction
  | @step s t hs hm ih =>
    cases hm with
    | elapse => exact ih ht
    | answer r =>
      intro submission ho
      rw [(s.update_change r).store_eq ho] at ht
      rcases (s.update_change r).offered ho with hold | ⟨rfl, -⟩
      · exact ih ht submission hold
      · obtain ⟨others, hi⟩ := hs.exists_inStep
        obtain rfl : others = tables := Except.ok.inj (hi.listed.symm.trans ht)
        exact hi.checkedValues_subperm (hs.mono fun _ _ => OwnMove.requestMove).page

/-! ### What is reported -/

/-- A request confirms a dialog, and the deletion that the dialog offers succeeds. -/
structure Deletes (s : Session ρ) (r : Request) (submission : Submission) : Prop where
  confirms : s.Confirms r
  offered : s.offered = some submission
  succeeds : (TableDeletion.submit submission s.store s.disk).answer = .ok ()

/-- The deletion takes the tables of the names offered from the store. -/
theorem Deletes.tables_update [LawfulTableStore ρ] {s : Session ρ} {r : Request} {submission : Submission}
    (h : s.Deletes r submission) (hs : Reachable RequestMove s) {tables : List Table}
    (ht : TableStore.tables s.store = .ok tables) :
    TableStore.tables (s.update r).state.store =
      .ok (tables.filter fun t => !submission.values.contains t.name) := by
  have hd := isDeletion_of_offered hs h.offered
  have hok : (TableStore.delete submission.values s.store s.disk).1 = .ok () :=
    (TableDeletion.submit_deletion hd s.store s.disk).1.symm.trans h.succeeds
  rw [update_of_confirms h.confirms h.offered, confirm_store h.offered, delivered_store hd]
  exact LawfulTableStore.tables_delete_ok ht hok

/-- The report gives the number of names offered. -/
theorem Deletes.status_update {s : Session ρ} {r : Request} {submission : Submission} (h : s.Deletes r submission)
    (hc : s.catalog.Complete) :
    ∃ text, s.message .deleteDone [toString submission.values.length, submission.joined] = .ok text ∧
      (s.update r).state.status = some s!"{s.clock.stamp} {text}" := by
  obtain ⟨text, ht, hu⟩ := confirm_done hc h.offered h.succeeds
  refine ⟨text, ht, ?_⟩
  rw [update_of_confirms h.confirms h.offered, hu]
  rfl

/-- The number reported is that of the names offered. It is at most the number of tables that the store gave up, and
it is that number exactly if each name was offered as often as the store had it, as is so if no tables share one. -/
structure ReportsOffered (s : Session ρ) (r : Request) (submission : Submission) (tables rest : List Table) :
    Prop where
  before : TableStore.tables s.store = .ok tables
  after : TableStore.tables (s.update r).state.store = .ok rest
  status : ∃ text, s.message .deleteDone [toString submission.values.length, submission.joined] = .ok text ∧
    (s.update r).state.status = some s!"{s.clock.stamp} {text}"
  le : submission.values.length ≤ tables.length - rest.length
  eq_iff : submission.values.length = tables.length - rest.length ↔
    ∀ name ∈ submission.values, submission.values.count name = (tables.map (·.name)).count name
  eq_of_nodup : (tables.map (·.name)).Nodup → submission.values.length = tables.length - rest.length

theorem Deletes.exists_reportsOffered [LawfulTableStore ρ] {s : Session ρ} {r : Request} {submission : Submission}
    (h : s.Deletes r submission) (hs : Reachable OwnMove s) {tables : List Table}
    (ht : TableStore.tables s.store = .ok tables) : ∃ rest, s.ReportsOffered r submission tables rest := by
  have hr : Reachable RequestMove s := hs.mono fun _ _ => OwnMove.requestMove
  have hsub := hs.offersListed ht submission h.offered
  refine ⟨_, ht, h.tables_update hr ht, h.status_update hr.complete, ?_, ?_, ?_⟩ <;> rw [length_sub_length_filter]
  · exact (subperm_filter_mem hsub).length_le
  · exact length_eq_iff_of_subperm hsub
  · intro hnodup
    rw [length_eq_iff_of_subperm hsub]
    intro name hn
    have hle := hsub.count_le name
    have hpos := List.count_pos_iff.2 hn
    have hone := List.nodup_iff_count_le_one.1 hnodup name
    omega

/-! ### Tables that share a name -/

/-- Moving on the page and checking leads where the operations of the page lead. -/
theorem Reachable.exists_paged {s : Session ρ} (h : Reachable OwnMove s) {requests : List PageRequest}
    (hd : .delete ∉ requests) :
    ∃ t, Reachable OwnMove t ∧ t.store = s.store ∧
      t.page = Page.run (requests.flatMap PageRequest.ops) s.page := by
  induction requests generalizing s with
  | nil => exact ⟨s, h, rfl, rfl⟩
  | cons request rest ih =>
    obtain ⟨hfirst, hrest⟩ := not_or.1 (List.mem_cons.not.1 hd)
    obtain ⟨status, hs⟩ := s.updatePage_state (Ne.symm hfirst)
    have hnext : Reachable OwnMove (s.updatePage request).state := h.step (.answer s (.page request))
    rw [hs] at hnext
    obtain ⟨t, ht, hstore, hpage⟩ := ih hnext hrest
    refine ⟨t, ht, hstore, ?_⟩
    rw [hpage, List.flatMap_cons, Page.run_append]

/-- With something checked a dialog can be made to offer it. -/
theorem Reachable.exists_asked {s : Session ρ} (h : Reachable OwnMove s) (hne : s.page.form.checkedValues ≠ []) :
    ∃ t, Reachable OwnMove t ∧ t.store = s.store ∧ t.offered = some s.page.form.submission := by
  have hr : Reachable RequestMove s := h.mono fun _ _ => OwnMove.requestMove
  obtain ⟨d, hd⟩ := Confirmation.exists_dialog hr.complete.contains_wording s.page.form
  have hasked : (s.update (.page .delete)).state = { s with modal := s.modal.present d } := by
    simp only [update, updatePage, Confirmation.activate, hr.wording, hd, replace_eq]
  have hnext : Reachable OwnMove (s.update (.page .delete)).state := h.step (.answer s _)
  rw [hasked] at hnext
  refine ⟨_, hnext, rfl, ?_⟩
  have hp := Confirmation.dialog_pending hd
  rw [if_neg hne] at hp
  exact hp

end Report

/-- Requests can move the cursor to a group and check it as the page's own operations do. -/
theorem exists_checked_group (tables : List Table) (group : Nat) :
    ∃ s : Session MemoryTables, Reachable OwnMove s ∧ s.store = ⟨tables⟩ ∧
      s.page = Page.Op.run .check (Page.run (Page.opsTo tables group) .empty) := by
  have hlisted : TableStore.tables (MemoryTables.mk tables) = .ok tables := rfl
  have hmoves : PageRequest.delete ∉ List.replicate group PageRequest.selectNext ++ [.toggleCheck] := by simp
  obtain ⟨s, hs, hstore, hpage⟩ := (Reachable.fresh OwnMove .english hlisted .empty).exists_paged hmoves
  have hdown : (List.replicate group PageRequest.selectNext).flatMap PageRequest.ops =
      List.replicate group .selectNext := by
    simp [List.flatMap_replicate, PageRequest.ops]
  rw [List.flatMap_append, Page.run_append, hdown] at hpage
  exact ⟨s, hs, hstore, hpage⟩

/-- Over tables of which two share a name, checking a group with this name and deleting what is checked reports too
few. -/
theorem exists_miscounted {tables : List Table} (h : ¬ (tables.map (·.name)).Nodup) :
    ∃ (s : Session MemoryTables) (submission : Submission), Reachable OwnMove s ∧ s.store.tables = tables ∧
      s.Deletes (.modal .confirm) submission ∧
      ∃ name ∈ submission.values, submission.values.count name ≠ (tables.map (·.name)).count name := by
  obtain ⟨name, hmany⟩ : ∃ name, 1 < (tables.map (·.name)).count name := by
    simpa [List.nodup_iff_count_le_one] using h
  have hlisted := ((Group.ofTables_perm tables).map (·.name)).mem_iff.2
    (List.count_pos_iff.1 (Nat.lt_of_succ_lt hmany))
  obtain ⟨group, hmem, hnodup⟩ := Page.exists_submitted_once hlisted
  obtain ⟨s, hs, hstore, hpage⟩ := exists_checked_group tables group
  rw [← hpage] at hmem hnodup
  obtain ⟨t, ht, hsame, ho⟩ := hs.exists_asked (List.ne_nil_of_mem hmem)
  obtain ⟨others, hi⟩ := ht.exists_inStep
  have hd := isDeletion_of_offered (ht.mono fun _ _ => OwnMove.requestMove) ho
  have hone : s.page.form.checkedValues.count name = 1 := List.nodup_iff_count_eq_one.1 hnodup name hmem
  refine ⟨t, s.page.form.submission, ht, by rw [hsame, hstore], ⟨.inl rfl, ho, hi.submit_memory ho hd⟩, name, hmem, ?_⟩
  show s.page.form.checkedValues.count name ≠ _
  omega

/-- In a session over some tables that requests lead to while nobody else touches the store, a deletion that succeeds
is reported with the number of items that were checked. The store gives up at least as many tables, and as many exactly
if each name was checked as often as the store had it. The two numbers are the same in all sessions over these tables
in memory exactly if no two of the tables share a name. -/
theorem report_counts_checked_items (tables : List Table) :
    (∀ (ρ : Type) [TableStore ρ] [LawfulTableStore ρ] (s : Session ρ) (r : Request) (submission : Submission),
      Reachable OwnMove s → TableStore.tables s.store = .ok tables → s.Deletes r submission →
      ∃ rest, s.ReportsOffered r submission tables rest) ∧
    ((∀ (s : Session MemoryTables) (r : Request) (submission : Submission), Reachable OwnMove s →
        s.store.tables = tables → s.Deletes r submission →
        submission.values.length = tables.length - (s.update r).state.store.tables.length) ↔
      (tables.map (·.name)).Nodup) := by
  refine ⟨fun ρ _ _ s r submission hs ht hd => hd.exists_reportsOffered hs ht, ?_, ?_⟩
  · intro hall
    by_contra hshared
    obtain ⟨s, submission, hs, rfl, hd, name, hn, hne⟩ := exists_miscounted hshared
    obtain ⟨rest, hreport⟩ := hd.exists_reportsOffered hs rfl
    obtain rfl : (s.update (.modal .confirm)).state.store.tables = rest := Except.ok.inj hreport.after
    exact hne (hreport.eq_iff.1 (hall s _ submission hs rfl hd) name hn)
  · rintro hnodup s r submission hs rfl hd
    obtain ⟨rest, hreport⟩ := hd.exists_reportsOffered hs rfl
    obtain rfl : (s.update r).state.store.tables = rest := Except.ok.inj hreport.after
    exact hreport.eq_of_nodup hnodup

/-- Two tables of one name in memory, the first of which is checked and asked to be deleted. -/
def sharedAsked : Session MemoryTables :=
  let tables := [⟨some "P", "T", none⟩, ⟨some "P", "T", none⟩]
  let s := fresh .english none Message.Language.english.builtIn tables (MemoryTables.mk tables) .empty
  ((s.update (.page .toggleCheck)).state.update (.page .delete)).state

theorem sharedAsked_reachable : Reachable OwnMove sharedAsked :=
  .step (.step (.fresh OwnMove .english rfl .empty) (.answer _ _)) (.answer _ _)

theorem sharedAsked_deletes : sharedAsked.Deletes (.modal .confirm) ⟨"ao-tables", "delete", ["T"]⟩ :=
  ⟨.inl rfl, by rfl, by rfl⟩

/-- One table is reported and two are gone; over tables with names of their own that cannot be. -/
theorem sharedAsked_reports_one :
    (Reachable OwnMove sharedAsked ∧ sharedAsked.Deletes (.modal .confirm) ⟨"ao-tables", "delete", ["T"]⟩) ∧
      (sharedAsked.update (.modal .confirm)).state.status = some "[00:00:00] Deleted 1 table(s): T" ∧
      TableStore.tables (sharedAsked.update (.modal .confirm)).state.store = .ok [] ∧
      ∀ (s : Session MemoryTables) (r : Request) (submission : Submission), Reachable OwnMove s →
        s.store.tables = [⟨some "P", "A", none⟩, ⟨some "P", "B", some 1⟩] → s.Deletes r submission →
        submission.values.length = 2 - (s.update r).state.store.tables.length := by
  obtain ⟨rest, hreport⟩ := (report_counts_checked_items [⟨some "P", "T", none⟩, ⟨some "P", "T", none⟩]).1
    MemoryTables sharedAsked _ _ sharedAsked_reachable (by rfl) sharedAsked_deletes
  obtain ⟨text, htext, hstatus⟩ := hreport.status
  obtain rfl : text = "Deleted 1 table(s): T" := Except.ok.inj (htext.symm.trans (by rfl))
  exact ⟨⟨sharedAsked_reachable, sharedAsked_deletes⟩, hstatus.trans (by rfl), by rfl,
    (report_counts_checked_items [⟨some "P", "A", none⟩, ⟨some "P", "B", some 1⟩]).2.2 (by decide)⟩

/-- The number reported is not always the number of tables that are gone. -/
theorem not_all_reports_count_tables :
    ¬ ∀ (s : Session MemoryTables) (r : Request) (submission : Submission), Reachable OwnMove s →
      s.Deletes r submission →
      let gone := s.store.tables.length - (s.update r).state.store.tables.length
      ∃ text, s.message .deleteDone [toString gone, submission.joined] = .ok text ∧
        (s.update r).state.status = some s!"{s.clock.stamp} {text}" := by
  intro h
  obtain ⟨text, htext, hstatus⟩ := h sharedAsked _ _ sharedAsked_reachable sharedAsked_deletes
  obtain rfl : text = "Deleted 2 table(s): T" := Except.ok.inj (htext.symm.trans (by rfl))
  have hone : (sharedAsked.update (.modal .confirm)).state.status = some "[00:00:00] Deleted 1 table(s): T" := by rfl
  exact absurd (Option.some.inj (hone.symm.trans hstatus)) (by decide)

end Session

end TableDesk
