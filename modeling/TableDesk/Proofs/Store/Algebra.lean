import TableDesk.Proofs.First
import TableDesk.Proofs.Store

/-!
The algebra of deletions. Whether a deletion goes through depends on which names it gives and not on their order or
on how often it gives one; the failure alone depends on the order, since it reports the first name that no table has.
Two deletions in a row are one deletion of all the names, as long as the second one does not ask for what the first
one took. A store with a file does what its copy would do in memory, unless the file cannot be written.
-/

namespace TableDesk

/-- A deletion fails with the first name that no table has. -/
theorem remaining_of_isFirstWithout {tables : List Table} {names : List String} {name : String}
    (h : IsFirstWithout (· ∈ tables.map (·.name)) names name) :
    remaining tables names = .error (.tableNotFound name) := by
  have hunknown : ∀ other, (!tables.any (·.name == other)) = true ↔ other ∉ tables.map (·.name) := by
    intro other
    simp
  rw [remaining, h.find?_eq hunknown]

/-- The names of the tables that are left are those that were not deleted. -/
theorem mem_names_filter {tables : List Table} {names : List String} {name : String} :
    name ∈ (tables.filter fun t => t.name ∉ names).map (·.name) ↔ name ∈ tables.map (·.name) ∧ name ∉ names := by
  simp only [List.mem_map, List.mem_filter, decide_eq_true_eq]
  constructor
  · rintro ⟨t, ⟨ht, hn⟩, rfl⟩
    exact ⟨⟨t, ht, rfl⟩, hn⟩
  · rintro ⟨⟨t, ht, rfl⟩, hn⟩
    exact ⟨t, ⟨ht, hn⟩, rfl⟩

namespace MemoryTables

variable (m : MemoryTables) (disk : Disk) {names others : List String}

theorem delete_of_forall_mem (h : ∀ name ∈ names, name ∈ m.tables.map (·.name)) :
    TableStore.delete names m disk = (.ok (), ⟨m.tables.filter fun t => t.name ∉ names⟩, disk) := by
  have hrest : remaining m.tables names = .ok (m.tables.filter fun t => t.name ∉ names) := by
    rw [remaining_of_forall_mem h]
    simp
  simp only [TableStore.delete, hrest]

theorem delete_of_isFirstWithout {name : String} (h : IsFirstWithout (· ∈ m.tables.map (·.name)) names name) :
    TableStore.delete names m disk = (.error (.tableNotFound name), m, disk) := by
  simp only [TableStore.delete, remaining_of_isFirstWithout h]

theorem delete_eq_ok_iff :
    (TableStore.delete names m disk).1 = .ok () ↔ ∀ name ∈ names, name ∈ m.tables.map (·.name) := by
  constructor
  · intro h
    rcases forall_or_exists_isFirstWithout (· ∈ m.tables.map (·.name)) names with hall | ⟨name, hname⟩
    · exact hall
    · rw [delete_of_isFirstWithout m disk hname] at h
      contradiction
  · intro h
    rw [delete_of_forall_mem m disk h]

/-- Only which names are given counts for what becomes of the tables. -/
theorem delete_congr (h : ∀ name, name ∈ names ↔ name ∈ others) :
    (TableStore.delete names m disk).2.1 = (TableStore.delete others m disk).2.1 := by
  rcases forall_or_exists_isFirstWithout (· ∈ m.tables.map (·.name)) names with hall | ⟨name, hname⟩
  · have hothers : ∀ name ∈ others, name ∈ m.tables.map (·.name) := fun name hn => hall name ((h name).2 hn)
    rw [delete_of_forall_mem m disk hall, delete_of_forall_mem m disk hothers]
    simp only [h]
  · rcases forall_or_exists_isFirstWithout (· ∈ m.tables.map (·.name)) others with hall | ⟨other, hother⟩
    · exact absurd (fun name hn => hall name ((h name).1 hn)) hname.not_forall
    · rw [delete_of_isFirstWithout m disk hname, delete_of_isFirstWithout m disk hother]

/-- After a deletion another one goes through if all its names were known and none of them was deleted. It leaves what
one deletion of all the names would. -/
theorem delete_delete {xs ys : List String} (h : ∀ name ∈ xs, name ∈ m.tables.map (·.name)) :
    let first := TableStore.delete xs m disk
    let second := TableStore.delete ys first.2.1 first.2.2
    (second.1 = .ok () ↔ ∀ name ∈ ys, name ∈ m.tables.map (·.name) ∧ name ∉ xs) ∧
      (second.1 = .ok () → second.2.1 = (TableStore.delete (xs ++ ys) m disk).2.1) := by
  simp only [delete_of_forall_mem m disk h]
  have hok : (TableStore.delete ys (MemoryTables.mk (m.tables.filter fun t => t.name ∉ xs)) disk).1 = .ok () ↔
      ∀ name ∈ ys, name ∈ m.tables.map (·.name) ∧ name ∉ xs := by
    rw [delete_eq_ok_iff]
    simp only [mem_names_filter]
  refine ⟨hok, fun hsecond => ?_⟩
  have hys := hok.1 hsecond
  have hboth : ∀ name ∈ xs ++ ys, name ∈ m.tables.map (·.name) := by
    intro name hn
    rcases List.mem_append.1 hn with hx | hy
    · exact h name hx
    · exact (hys name hy).1
  have hrest := delete_of_forall_mem ⟨m.tables.filter fun t => t.name ∉ xs⟩ disk
    (fun name hn => mem_names_filter.2 (hys name hn))
  rw [hrest, delete_of_forall_mem m disk hboth]
  simp only [List.filter_filter, List.mem_append, not_or, Bool.decide_and, Bool.and_comm]

end MemoryTables

/-- A store with a file answers as its copy would in memory, or it could not be written and keeps its copy. -/
theorem FileTables.delete_like_copy (f : FileTables) (names : List String) (disk : Disk) :
    let inMemory := TableStore.delete names (MemoryTables.mk f.copy) disk
    ((FileTables.delete names f disk).1 = inMemory.1 ∧
      (FileTables.delete names f disk).2.1 = { f with copy := inMemory.2.1.tables }) ∨
    (inMemory.1 = .ok () ∧ ∃ detail, (FileTables.delete names f disk).1 = .error (.storage detail) ∧
      (FileTables.delete names f disk).2.1 = f) := by
  simp only [TableStore.delete]
  rcases f.delete_eq names disk with ⟨e, hr, hd⟩ | ⟨rest, disk', hr, ⟨e, hs, hd⟩ | ⟨-, hd⟩⟩
  · exact .inl (by simp only [hr, hd, and_self])
  · obtain ⟨detail, rfl⟩ := save_error (congrArg Prod.fst hs)
    refine .inr ⟨?_, detail, ?_, ?_⟩ <;> simp only [hr, hd]
  · exact .inl (by simp only [hr, hd, and_self])

/-- A deletion from memory goes through exactly if every name has a table, and leaves the tables of the other names in
their order; else it reports the first name without a table and leaves everything. Names in another order or given
several times make no difference to the tables. Two deletions in a row go through exactly if one of all the names does
and they share no name, with the same tables left. A store with a file does as its copy would in memory, or could not
be written and keeps its copy. -/
theorem deletions_add_up (m : MemoryTables) (disk : Disk) :
    (∀ names,
      ((TableStore.delete names m disk).1 = .ok () ↔ ∀ name ∈ names, name ∈ m.tables.map (·.name)) ∧
      ((TableStore.delete names m disk).1 = .ok () →
        (TableStore.delete names m disk).2.1.tables = m.tables.filter fun t => t.name ∉ names) ∧
      ((TableStore.delete names m disk).1 ≠ .ok () → ∃ name, IsFirstWithout (· ∈ m.tables.map (·.name)) names name ∧
        TableStore.delete names m disk = (.error (.tableNotFound name), m, disk))) ∧
    (∀ names others, (∀ name, name ∈ names ↔ name ∈ others) →
      ((TableStore.delete names m disk).1 = .ok () ↔ (TableStore.delete others m disk).1 = .ok ()) ∧
      (TableStore.delete names m disk).2.1 = (TableStore.delete others m disk).2.1) ∧
    (∀ xs ys,
      let first := TableStore.delete xs m disk
      let second := TableStore.delete ys first.2.1 first.2.2
      let both := TableStore.delete (xs ++ ys) m disk
      (first.1 = .ok () ∧ second.1 = .ok () ↔ both.1 = .ok () ∧ ∀ name ∈ xs, name ∉ ys) ∧
      (first.1 = .ok () → second.1 = .ok () → second.2.1 = both.2.1)) ∧
    ∀ (path : Path) names,
      let inMemory := TableStore.delete names m disk
      let inFile := TableStore.delete names (FileTables.mk path m.tables) disk
      (inFile.1 = inMemory.1 ∧ inFile.2.1 = ⟨path, inMemory.2.1.tables⟩) ∨
        (inMemory.1 = .ok () ∧ ∃ detail, inFile.1 = .error (.storage detail) ∧ inFile.2.1 = ⟨path, m.tables⟩) := by
  refine ⟨fun names => ⟨m.delete_eq_ok_iff disk, ?_, ?_⟩, ?_, ?_, ?_⟩
  · intro hok
    rw [m.delete_of_forall_mem disk ((m.delete_eq_ok_iff disk).1 hok)]
  · intro hfails
    rcases forall_or_exists_isFirstWithout (· ∈ m.tables.map (·.name)) names with hall | ⟨name, hname⟩
    · exact absurd ((m.delete_eq_ok_iff disk).2 hall) hfails
    · exact ⟨name, hname, m.delete_of_isFirstWithout disk hname⟩
  · intro names others hsame
    refine ⟨?_, m.delete_congr disk hsame⟩
    rw [m.delete_eq_ok_iff, m.delete_eq_ok_iff]
    simp only [hsame]
  · intro xs ys first second both
    have hfirst : first.1 = .ok () ↔ ∀ name ∈ xs, name ∈ m.tables.map (·.name) := m.delete_eq_ok_iff disk
    have hboth : both.1 = .ok () ↔ ∀ name ∈ xs ++ ys, name ∈ m.tables.map (·.name) := m.delete_eq_ok_iff disk
    refine ⟨?_, fun h => (m.delete_delete disk (hfirst.1 h)).2⟩
    rw [hboth, List.forall_mem_append]
    constructor
    · rintro ⟨hf, hs⟩
      have hys := (m.delete_delete disk (hfirst.1 hf)).1.1 hs
      exact ⟨⟨hfirst.1 hf, fun name hn => (hys name hn).1⟩, fun name hx hy => (hys name hy).2 hx⟩
    · rintro ⟨⟨hxs, hys⟩, hapart⟩
      exact ⟨hfirst.2 hxs, (m.delete_delete disk hxs).1.2 fun name hn => ⟨hys name hn, fun hx => hapart name hx hn⟩⟩
  · intro path names
    exact FileTables.delete_like_copy ⟨path, m.tables⟩ names disk

def twiceListed : MemoryTables :=
  ⟨[⟨some "P", "A", some 3⟩, ⟨some "Q", "B", none⟩, ⟨none, "A", none⟩, ⟨none, "C", some 1⟩]⟩

/-- One name takes both its tables. Given twice and in another order, the names leave the same table; one after the
other they do so too, but not if the second deletion asks for what the first one took. -/
theorem twiceListed_deletions_add_up :
    let delete names m := TableStore.delete names (m : MemoryTables) .empty
    ((delete ["A", "B"] twiceListed).1 = .ok () ∧
      (delete ["A", "B"] twiceListed).2.1.tables = [⟨none, "C", some 1⟩]) ∧
      (∃ name, IsFirstWithout (· ∈ twiceListed.tables.map (·.name)) ["A", "X", "B", "Y"] name ∧
        delete ["A", "X", "B", "Y"] twiceListed = (.error (.tableNotFound name), twiceListed, .empty)) ∧
      (delete ["B", "A", "B"] twiceListed).2.1 = (delete ["A", "B"] twiceListed).2.1 ∧
      (delete ["B"] (delete ["A"] twiceListed).2.1).2.1 = (delete ["A", "B"] twiceListed).2.1 ∧
      ¬ (delete ["B", "A"] (delete ["A"] twiceListed).2.1).1 = .ok () := by
  intro delete
  obtain ⟨hone, hsame, htwo, -⟩ := deletions_add_up twiceListed .empty
  have hok : (delete ["A", "B"] twiceListed).1 = .ok () := (hone ["A", "B"]).1.2 (by decide)
  refine ⟨⟨hok, ((hone ["A", "B"]).2.1 hok).trans (by decide)⟩, ?_, ?_, ?_, ?_⟩
  · exact (hone ["A", "X", "B", "Y"]).2.2 fun h => absurd ((hone _).1.1 h "X" (by simp)) (by decide)
  · exact (hsame ["B", "A", "B"] ["A", "B"] (by simp)).2
  · have hboth := (htwo ["A"] ["B"]).1.2 ⟨hok, by simp⟩
    exact (htwo ["A"] ["B"]).2 hboth.1 hboth.2
  · intro hsecond
    have hfirst : (delete ["A"] twiceListed).1 = .ok () := (hone ["A"]).1.2 (by decide)
    have hapart := ((htwo ["A"] ["B", "A"]).1.1 ⟨hfirst, hsecond⟩).2
    exact hapart "A" (by simp) (by simp)

end TableDesk
