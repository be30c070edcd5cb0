import TableDesk.Proofs.Disk
import TableDesk.Proofs.Store
import TableDesk.Proofs.Table

/-!
A file store and its file agree. Whatever deletions succeed or fail, opening the file again gives the tables of the
store. A deletion that fails changes neither of them: it may leave folders behind that it made on the way to the
file, but these bring nothing to the path of the file, unless the path leads back through one of them.
-/

namespace TableDesk.FileTables

variable {path : Path} {disk disk' : Disk} {f : FileTables} {tables : List Table}

/-- Tables that are written are read back. -/
theorem parse_print (tables : List Table) : parse (print tables) = .ok tables := by
  rw [parse, print, Json.parse?_pretty (Table.spelled_listToJson tables), Option.bind_some,
    Table.listOfValue?_listToJson]

/-- After tables have been saved, the file holds them. -/
theorem read_of_save (h : save path tables disk = (.ok (), disk')) : read path disk' = .ok (some tables) := by
  rcases save_cases path tables disk with ⟨e, he⟩ | ⟨written, hw, hs⟩
  · rw [he] at h
    cases h
  · obtain rfl : written = disk' := congrArg Prod.snd (hs.symm.trans h)
    obtain ⟨hcontains, hread⟩ := Disk.read_of_write hw
    rw [read, if_pos hcontains, hread]
    simp only [parse_print]
    rfl

/-- The file is seen as before when saving fails. A path that leads back may come to lead to something once the
folder above it is made; this has to be ruled out. -/
theorem read_of_save_error {e : Fault} (h : save path tables disk = (.error e, disk'))
    (hback : ".." ∈ path.steps → disk'.contains path = disk.contains path) : read path disk' = read path disk := by
  rcases save_cases path tables disk with ⟨detail, he⟩ | ⟨written, -, hs⟩
  · obtain rfl : (disk.makeParent path).2 = disk' := congrArg Prod.snd (he.symm.trans h)
    have hcontains : (disk.makeParent path).2.contains path = disk.contains path := by
      by_cases hb : ".." ∈ path.steps
      · exact hback hb
      · exact Disk.contains_makeParent disk hb
    cases hc : disk.contains path with
    | true => rw [Disk.makeParent_of_locate (Disk.contains_eq_true_iff.1 hc).1]
    | false =>
      rw [hc] at hcontains
      rw [read, read, hc, hcontains, if_neg Bool.false_ne_true, if_neg Bool.false_ne_true]
  · rw [hs] at h
    cases h

/-- The states of a store over the file at a path, and of the disk. The file is opened, tables are deleted or fail
to be, and everything but the file may change at any time. A path that leads back may come to lead to something
once the folders on it are made; a deletion that fails in this way is left out. -/
inductive Reachable (path : Path) : FileTables → Disk → Prop
  | opened {f : FileTables} {disk : Disk} (h : (load path disk).1 = .ok f) : Reachable path f disk
  | deleted {f : FileTables} {disk : Disk} (h : Reachable path f disk) (names : List String)
      (hback : ".." ∈ path.steps → (∃ e, (delete names f disk).1 = .error e) →
        (delete names f disk).2.2.contains path = disk.contains path) :
      Reachable path (delete names f disk).2.1 (delete names f disk).2.2
  | changed {f : FileTables} {disk : Disk} (h : Reachable path f disk) (disk' : Disk)
      (hfile : read path disk' = read path disk) : Reachable path f disk'

/-- The answer of opening the file depends on what it holds. -/
theorem load_congr (h : read path disk' = read path disk) : load path disk' = load path disk := by
  rw [load, load, h]

theorem load_of_read (h : read path disk = .ok (some tables)) : (load path disk).1 = .ok ⟨path, tables⟩ := by
  rw [load, h]

theorem path_of_load (h : (load path disk).1 = .ok f) : f.path = path := by
  unfold load at h
  split at h
  · cases h
  · cases h; rfl
  · cases h; rfl

/-- The file holds the tables of the store all the time. -/
theorem Reachable.load_eq (h : Reachable path f disk) : (load path disk).1 = .ok f := by
  induction h with
  | opened h => exact h
  | @deleted f disk _ names hback ih =>
    obtain rfl := path_of_load ih
    rcases f.delete_eq names disk with ⟨e, -, hd⟩ | ⟨rest, disk', -, ⟨e, hs, hd⟩ | ⟨hs, hd⟩⟩
    · rw [hd]
      exact ih
    · rw [hd] at hback ⊢
      rw [load_congr (read_of_save_error hs fun hb => hback hb ⟨e, rfl⟩)]
      exact ih
    · rw [hd]
      exact load_of_read (read_of_save hs)
  | changed _ disk' hfile ih =>
    rw [load_congr hfile]
    exact ih

/-- Opening the file again gives the store, after every deletion. One that fails changes neither the store nor what
opening gives, and after all tables have been deleted the file opens as an empty list. -/
theorem reopens_as_copy (h : Reachable path f disk) :
    (load path disk).1 = .ok f ∧
      ∀ names, match delete names f disk with
        | (.ok (), f', disk') => (load path disk').1 = .ok f' ∧
            ((∀ t ∈ f.copy, t.name ∈ names) → (load path disk').1 = .ok ⟨path, []⟩)
        | (.error _, f', disk') => f' = f ∧
            ((".." ∈ path.steps → disk'.contains path = disk.contains path) → (load path disk').1 = .ok f) := by
  have hload := h.load_eq
  refine ⟨hload, fun names => ?_⟩
  obtain rfl := path_of_load hload
  rcases f.delete_eq names disk with ⟨e, -, hd⟩ | ⟨rest, disk', hr, ⟨e, hs, hd⟩ | ⟨hs, hd⟩⟩
  · rw [hd]
    exact ⟨rfl, fun _ => hload⟩
  · rw [hd]
    refine ⟨rfl, fun hback => ?_⟩
    rw [load_congr (read_of_save_error hs hback)]
    exact hload
  · rw [hd]
    have hagain := load_of_read (read_of_save hs)
    refine ⟨hagain, fun hall => ?_⟩
    have hnil : rest = [] := by
      rw [remaining_eq_ok hr, List.filter_eq_nil_iff]
      intro t ht
      simpa using hall t ht
    rw [hagain, hnil]

/-- A store whose folder cannot be made at first. When it can, one of the sample tables is deleted and then all
others. -/
def emptied : FileTables × Disk :=
  let failed := delete ["AO_60DB71_SPRINT"] ⟨"d/tables.json", sampleTables⟩ ⟨[], [["d"]]⟩
  let deleted := delete ["AO_60DB71_SPRINT"] failed.2.1 .empty
  (delete ((sampleTables.map (·.name)).erase "AO_60DB71_SPRINT") deleted.2.1 deleted.2.2).2

theorem emptied_reachable : Reachable "d/tables.json" emptied.1 emptied.2 := by
  have hforward : ".." ∉ Path.steps "d/tables.json" := by decide
  have hopened : Reachable "d/tables.json" ⟨"d/tables.json", sampleTables⟩ ⟨[], [["d"]]⟩ := .opened rfl
  have hfailed := hopened.deleted ["AO_60DB71_SPRINT"] fun hb => absurd hb hforward
  have hdeleted := (hfailed.changed .empty rfl).deleted ["AO_60DB71_SPRINT"] fun hb => absurd hb hforward
  exact hdeleted.deleted _ fun hb => absurd hb hforward

theorem emptied_reopens_as_copy :
    Reachable "d/tables.json" emptied.1 emptied.2 ∧
      (delete ["AO_60DB71_SPRINT"] ⟨"d/tables.json", sampleTables⟩ ⟨[], [["d"]]⟩).1 =
        .error (.storage "Permission denied") ∧
      (load "d/tables.json" emptied.2).1 = .ok ⟨"d/tables.json", []⟩ :=
  ⟨emptied_reachable, rfl, (reopens_as_copy emptied_reachable).1⟩

/-- A path that leads back through a folder that is missing. -/
def loopPath : Path := "x/.."

/-- A deletion that fails may leave a file that does not open any more. There is nothing at the path at first. The
deletion makes the missing folder, so that the path leads to a folder then, and there it cannot write. -/
theorem not_always_reopens :
    ¬ ∀ (f : FileTables) (disk : Disk) (names : List String), (load f.path disk).1 = .ok f →
      (load f.path (delete names f disk).2.2).1 = .ok (delete names f disk).2.1 := by
  intro h
  have hopens : (load loopPath .empty).1 = .ok ⟨loopPath, sampleTables⟩ := rfl
  have hagain := h ⟨loopPath, sampleTables⟩ .empty ["AO_60DB71_SPRINT"] hopens
  have hfails : (load loopPath (delete ["AO_60DB71_SPRINT"] ⟨loopPath, sampleTables⟩ .empty).2.2).1 =
      .error (.storage "Is a directory") := rfl
  rw [hfails] at hagain
  cases hagain

end TableDesk.FileTables
