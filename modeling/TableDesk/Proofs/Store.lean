import TableDesk.Table.Deletion

/-!
What the stores of tables have in common. A deletion removes the tables of the given names or none, and it
fails because a name is unknown or because the result cannot be stored. The deletions that a store is
asked for can be counted without changing what it does.
-/

namespace TableDesk

/-- A deletion that succeeds leaves the tables of the other names. -/
theorem remaining_eq_ok {tables rest : List Table} {names : List String}
    (h : remaining tables names = .ok rest) : rest = tables.filter fun t => !names.contains t.name := by
  unfold remaining at h
  split at h
  · contradiction
  · exact (Except.ok.inj h).symm

/-- A deletion that fails reports a name. -/
theorem remaining_eq_error {tables : List Table} {names : List String} {e : Fault}
    (h : remaining tables names = .error e) : ∃ name, e = .tableNotFound name := by
  unfold remaining at h
  split at h
  next missing _ => exact ⟨missing, (Except.error.inj h).symm⟩
  · contradiction

/-- Where all names are known, nothing stands against a deletion. -/
theorem remaining_of_forall_mem {tables : List Table} {names : List String}
    (h : ∀ name ∈ names, name ∈ tables.map (·.name)) :
    remaining tables names = .ok (tables.filter fun t => !names.contains t.name) := by
  have hnone : names.find? (fun name => !tables.any (·.name == name)) = none := by
    rw [List.find?_eq_none]
    intro name hn
    obtain ⟨t, ht, hname⟩ := List.mem_map.1 (h name hn)
    simpa using ⟨t, ht, hname⟩
  rw [remaining, hnone]

/-- A store none of whose failures must end the program. -/
class MendableStore (ρ : Type) [TableStore ρ] : Prop where
  isFatal_eq_false : ∀ {names : List String} {store : ρ} {disk : Disk} {e : Fault},
    (TableStore.delete names store disk).1 = .error e → e.isFatal = false

/-- A store that always lists its tables and deletes the tables of the given names or none. -/
class LawfulTableStore (ρ : Type) [TableStore ρ] : Prop where
  exists_tables : ∀ store : ρ, ∃ tables, TableStore.tables store = .ok tables
  delete_ok : ∀ {names : List String} {store : ρ} {disk : Disk} {tables : List Table},
    TableStore.tables store = .ok tables → (TableStore.delete names store disk).1 = .ok () →
    TableStore.tables (TableStore.delete names store disk).2.1 = remaining tables names
  delete_error : ∀ {names : List String} {store : ρ} {disk : Disk} {tables : List Table} {e : Fault},
    TableStore.tables store = .ok tables → (TableStore.delete names store disk).1 = .error e →
    TableStore.tables (TableStore.delete names store disk).2.1 = .ok tables ∧
      (remaining tables names = .error e ∨ ∃ detail, e = .storage detail)

instance (ρ : Type) [TableStore ρ] [LawfulTableStore ρ] : MendableStore ρ where
  isFatal_eq_false := by
    intro names store disk e h
    obtain ⟨tables, ht⟩ := LawfulTableStore.exists_tables store
    rcases (LawfulTableStore.delete_error ht h).2 with hr | ⟨detail, rfl⟩
    · obtain ⟨name, rfl⟩ := remaining_eq_error hr
      rfl
    · rfl

/-- A deletion that succeeds leaves exactly the tables of the other names, in their order. -/
theorem LawfulTableStore.tables_delete_ok {ρ : Type} [TableStore ρ] [LawfulTableStore ρ] {names : List String}
    {store : ρ} {disk : Disk} {tables : List Table} (ht : TableStore.tables store = .ok tables)
    (h : (TableStore.delete names store disk).1 = .ok ()) :
    TableStore.tables (TableStore.delete names store disk).2.1 =
      .ok (tables.filter fun t => !names.contains t.name) := by
  obtain ⟨rest, hrest⟩ := exists_tables (TableStore.delete names store disk).2.1
  have hremaining : remaining tables names = .ok rest := (delete_ok ht h).symm.trans hrest
  rw [hrest, remaining_eq_ok hremaining]

/-- Neither a failure of the store nor a refused submission must end the program. -/
theorem TableDeletion.submit_error {ρ : Type} [TableStore ρ] [MendableStore ρ] {s : Submission} {store : ρ}
    {disk : Disk} {e : Fault} (h : (submit s store disk).answer = .error e) : e.isFatal = false := by
  unfold submit at h
  split at h
  · rw [← Except.error.inj h]
    rfl
  · rcases hd : TableStore.delete s.values store disk with ⟨answer, after⟩
    have ha : (TableStore.delete s.values store disk).1 = answer := congrArg Prod.fst hd
    rw [hd] at h
    cases answer with
    | ok => contradiction
    | error e' =>
      obtain rfl : e' = e := Except.error.inj h
      exact MendableStore.isFatal_eq_false ha

/-- A store that lists the same tables after a deletion that failed. -/
class SteadyStore (ρ : Type) [TableStore ρ] : Prop where
  tables_delete_error : ∀ {names : List String} {store : ρ} {disk : Disk} {e : Fault},
    (TableStore.delete names store disk).1 = .error e →
    TableStore.tables (TableStore.delete names store disk).2.1 = TableStore.tables store

instance (ρ : Type) [TableStore ρ] [LawfulTableStore ρ] : SteadyStore ρ where
  tables_delete_error := by
    intro names store disk e h
    obtain ⟨tables, ht⟩ := LawfulTableStore.exists_tables store
    rw [(LawfulTableStore.delete_error ht h).1, ht]

/-- A submission that fails leaves the tables, whether the store was asked or not. -/
theorem TableDeletion.tables_submit_error {ρ : Type} [TableStore ρ] [SteadyStore ρ] {s : Submission}
    {store : ρ} {disk : Disk} {e : Fault} (h : (submit s store disk).answer = .error e) :
    TableStore.tables (submit s store disk).state.1 = TableStore.tables store := by
  unfold submit at h ⊢
  split at h
  next hr => rw [if_pos hr]
  next hr =>
    rw [if_neg hr]
    rcases hd : TableStore.delete s.values store disk with ⟨answer, after⟩
    have ha : (TableStore.delete s.values store disk).1 = answer := congrArg Prod.fst hd
    have hs : (TableStore.delete s.values store disk).2.1 = after.1 := congrArg (·.2.1) hd
    rw [hd] at h
    cases answer with
    | ok => contradiction
    | error e' => exact hs ▸ SteadyStore.tables_delete_error ha

instance : LawfulTableStore MemoryTables where
  exists_tables store := ⟨store.tables, rfl⟩
  delete_ok := by
    intro names store disk tables ht h
    obtain rfl : store.tables = tables := Except.ok.inj ht
    simp only [TableStore.delete] at h ⊢
    split at h
    next rest hr => rw [hr]; rfl
    · contradiction
  delete_error := by
    intro names store disk tables e ht h
    obtain rfl : store.tables = tables := Except.ok.inj ht
    simp only [TableStore.delete] at h ⊢
    split at h
    · contradiction
    next e' hr =>
      rw [hr]
      exact ⟨rfl, .inl (congrArg Except.error (Except.error.inj h))⟩

namespace FileTables

/-- Saving makes the folder above the file, and then writes the file or fails. -/
theorem save_cases (path : Path) (tables : List Table) (disk : Disk) :
    (∃ e, save path tables disk = (.error (.storage e), (disk.makeParent path).2)) ∨
      ∃ written, (disk.makeParent path).2.write path (print tables) = .ok written ∧
        save path tables disk = (.ok (), written) := by
  unfold save
  rcases disk.makeParent path with ⟨answer, made⟩
  cases answer with
  | error e => exact .inl ⟨e, rfl⟩
  | ok =>
    cases hw : made.write path (print tables) with
    | error e => exact .inl ⟨e, by simp only [hw]⟩
    | ok written => exact .inr ⟨written, rfl, by simp only [hw]⟩

theorem save_error {path : Path} {tables : List Table} {disk : Disk} {e : Fault}
    (h : (save path tables disk).1 = .error e) : ∃ detail, e = .storage detail := by
  rcases save_cases path tables disk with ⟨detail, hs⟩ | ⟨written, -, hs⟩
  · rw [hs] at h
    exact ⟨detail, (Except.error.inj h).symm⟩
  · rw [hs] at h
    cases h

/-- A deletion of an unknown name does nothing. Any other one saves the rest, and changes the copy only after that. -/
theorem delete_eq (names : List String) (f : FileTables) (disk : Disk) :
    (∃ e, remaining f.copy names = .error e ∧ delete names f disk = (.error e, f, disk)) ∨
      ∃ rest disk', remaining f.copy names = .ok rest ∧
        ((∃ e, save f.path rest disk = (.error e, disk') ∧ delete names f disk = (.error e, f, disk')) ∨
          save f.path rest disk = (.ok (), disk') ∧ delete names f disk = (.ok (), { f with copy := rest }, disk')) := by
  unfold delete
  cases hr : remaining f.copy names with
  | error e => exact .inl ⟨e, rfl, rfl⟩
  | ok rest =>
    rcases hs : save f.path rest disk with ⟨answer, after⟩
    refine .inr ⟨rest, after, rfl, ?_⟩
    cases answer with
    | error e => exact .inl ⟨e, hs, by simp only [hs]⟩
    | ok => exact .inr ⟨hs, by simp only [hs]⟩

/-- A deletion succeeds when every name is known and the rest can be stored; the copy changes only then. -/
theorem delete_cases (names : List String) (f : FileTables) (disk : Disk) :
    (∃ rest, remaining f.copy names = .ok rest ∧ (delete names f disk).1 = .ok () ∧
      (delete names f disk).2.1 = { f with copy := rest }) ∨
    ∃ e, (delete names f disk).1 = .error e ∧ (delete names f disk).2.1 = f ∧
      (remaining f.copy names = .error e ∨ ∃ detail, e = .storage detail) := by
  rcases f.delete_eq names disk with ⟨e, hr, hd⟩ | ⟨rest, disk', hr, ⟨e, hs, hd⟩ | ⟨-, hd⟩⟩
  · rw [hd]
    exact .inr ⟨e, rfl, rfl, .inl hr⟩
  · rw [hd]
    exact .inr ⟨e, rfl, rfl, .inr (save_error (congrArg Prod.fst hs))⟩
  · rw [hd]
    exact .inl ⟨rest, hr, rfl, rfl⟩

end FileTables

instance : LawfulTableStore FileTables where
  exists_tables f := ⟨f.copy, rfl⟩
  delete_ok := by
    intro names f disk tables ht h
    obtain rfl : f.copy = tables := Except.ok.inj ht
    rcases f.delete_cases names disk with ⟨rest, hr, -, hf⟩ | ⟨e, he, -, -⟩
    · rw [hr]
      exact congrArg (fun f => Except.ok f.copy) hf
    · exact absurd (he.symm.trans h) (by simp)
  delete_error := by
    intro names f disk tables e ht h
    obtain rfl : f.copy = tables := Except.ok.inj ht
    rcases f.delete_cases names disk with ⟨rest, -, hok, -⟩ | ⟨e', he, hf, hcause⟩
    · exact absurd (hok.symm.trans h) (by simp)
    · obtain rfl : e' = e := Except.error.inj (he.symm.trans h)
      exact ⟨congrArg (fun f => Except.ok f.copy) hf, hcause⟩

/-! ### Stores that answer alike -/

section SameService

variable {ρ : Type} [TableStore ρ]

def afterDeletions (requests : List (List String)) (service : ρ × Disk) : ρ × Disk :=
  requests.foldl (fun service names => (TableStore.delete names service.1 service.2).2) service

/-- Two stores, each with its disk, that no deletions tell apart: after the same deletions they list the same tables
and give the same answer to the next deletion. -/
def SameService (a b : ρ × Disk) : Prop :=
  ∀ requests, TableStore.tables (afterDeletions requests a).1 = TableStore.tables (afterDeletions requests b).1 ∧
    ∀ names, (TableStore.delete names (afterDeletions requests a).1 (afterDeletions requests a).2).1 =
      (TableStore.delete names (afterDeletions requests b).1 (afterDeletions requests b).2).1

namespace SameService

theorem refl (a : ρ × Disk) : SameService a a := fun _ => ⟨rfl, fun _ => rfl⟩

variable {a b : ρ × Disk}

theorem tables (h : SameService a b) : TableStore.tables a.1 = TableStore.tables b.1 := (h []).1

theorem delete_answer (h : SameService a b) (names : List String) :
    (TableStore.delete names a.1 a.2).1 = (TableStore.delete names b.1 b.2).1 := (h []).2 names

theorem delete (h : SameService a b) (names : List String) :
    SameService (TableStore.delete names a.1 a.2).2 (TableStore.delete names b.1 b.2).2 :=
  fun requests => h (names :: requests)

theorem submit (h : SameService a b) (submission : Submission) :
    (TableDeletion.submit submission a.1 a.2).answer = (TableDeletion.submit submission b.1 b.2).answer ∧
      SameService (TableDeletion.submit submission a.1 a.2).state (TableDeletion.submit submission b.1 b.2).state := by
  unfold TableDeletion.submit
  split
  · exact ⟨rfl, h⟩
  · have hanswer := h.delete_answer submission.values
    have hafter := h.delete submission.values
    generalize TableStore.delete submission.values a.1 a.2 = x at hanswer hafter
    generalize TableStore.delete submission.values b.1 b.2 = y at hanswer hafter
    rcases x with ⟨answer, after⟩
    rcases y with ⟨answer', after'⟩
    obtain rfl : answer = answer' := hanswer
    cases answer <;> exact ⟨rfl, hafter⟩

end SameService

/-- Tables in memory do not depend on the disk. -/
theorem MemoryTables.sameService (m : MemoryTables) (disk disk' : Disk) : SameService (m, disk) (m, disk') := by
  have hdelete : ∀ (names : List String) (m : MemoryTables) (disk disk' : Disk),
      (TableStore.delete names m disk).1 = (TableStore.delete names m disk').1 ∧
        (TableStore.delete names m disk).2.1 = (TableStore.delete names m disk').2.1 := by
    intro names m disk disk'
    simp only [TableStore.delete]
    split <;> exact ⟨rfl, rfl⟩
  have hafter : ∀ requests, (afterDeletions requests (m, disk)).1 = (afterDeletions requests (m, disk')).1 := by
    intro requests
    induction requests generalizing m disk disk' with
    | nil => rfl
    | cons names rest ih =>
      have hm : (TableStore.delete names m disk').2 =
          ((TableStore.delete names m disk).2.1, (TableStore.delete names m disk').2.2) :=
        Prod.ext (hdelete names m disk disk').2.symm rfl
      unfold afterDeletions at ih ⊢
      rw [List.foldl_cons, List.foldl_cons, hm]
      exact ih _ _ _
  intro requests
  rw [hafter requests]
  exact ⟨rfl, fun names => (hdelete names _ _ _).1⟩

end SameService

/-! ### Counting deletions -/

/-- A store with an account of the deletions it was asked for, in order. -/
structure Audited (ρ : Type) where
  store : ρ
  deletions : List (List String)

instance (ρ : Type) [TableStore ρ] : TableStore (Audited ρ) where
  tables a := TableStore.tables a.store
  delete names a disk :=
    match TableStore.delete names a.store disk with
    | (answer, store, disk) => (answer, ⟨store, a.deletions ++ [names]⟩, disk)

end TableDesk
