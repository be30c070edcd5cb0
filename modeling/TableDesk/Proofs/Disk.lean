import TableDesk.Proofs.Path
import TableDesk.Disk

/-!
What making folders and writing a document do to the disk. Along a way that can be gone no folder has to be made.
Where folders are made on the way to a place, nothing appears at the place itself and no document goes. A document
that has been written is found by the path that it was written at.
-/

namespace TableDesk

/-- Steps that lead on only lead to the place that they spell. -/
theorem Path.foldl_follow {steps : List String} (h : ".." ∉ steps) (place : Place) :
    steps.foldl Path.follow place = place ++ steps := by
  induction steps generalizing place with
  | nil => simp
  | cons step rest ih =>
    rw [List.mem_cons, not_or] at h
    rw [List.foldl_cons, ih h.2, Path.follow, if_pos (Ne.symm h.1), List.append_assoc]
    rfl

namespace Disk

variable {disk disk' : Disk} {path : Path} {place other last : Place} {node : Node} {steps : List String}

theorem isFolder_iff : disk.isFolder place = true ↔
    place = ["/"] ∨ (∀ step ∈ place, step = "..") ∨ disk.node? place = some .folder ∨
      ∃ entry ∈ disk.nodes, place <+: entry.1 ∧ entry.1 ≠ place := by
  simp [isFolder, List.isPrefixOf_iff_prefix, or_assoc]

theorem exists_of_node?_eq_some (h : disk.node? place = some node) : (place, node) ∈ disk.nodes := by
  unfold node? at h
  obtain ⟨entry, hf, rfl⟩ := Option.map_eq_some_iff.1 h
  obtain rfl : entry.1 = place := by simpa using List.find?_some hf
  exact List.mem_of_find?_eq_some hf

theorem exists_of_isDocument (h : disk.isDocument place = true) : ∃ node, (place, node) ∈ disk.nodes := by
  unfold isDocument at h
  cases hn : disk.node? place with
  | none => rw [hn] at h; cases h
  | some node => exact ⟨node, exists_of_node?_eq_some hn⟩

/-- What leads to something is a folder. -/
theorem isFolder_of_isPrefix (hp : other <+: place) (hne : other ≠ place)
    (h : disk.isFolder place = true ∨ disk.isDocument place = true) : disk.isFolder other = true := by
  have hentry : ∀ entry ∈ disk.nodes, place <+: entry.1 → disk.isFolder other = true := by
    intro entry he hpe
    refine isFolder_iff.2 (.inr (.inr (.inr ⟨entry, he, hp.trans hpe, ?_⟩)))
    rintro rfl
    exact hne (hp.eq_of_length (Nat.le_antisymm hp.length_le hpe.length_le))
  rcases h with h | h
  · rcases isFolder_iff.1 h with rfl | hback | hn | ⟨entry, he, hpe, -⟩
    · obtain rfl : other = [] := by
        rcases List.prefix_cons_iff.1 hp with h | ⟨rest, h, hrest⟩
        · exact h
        · exact absurd (h.trans (by rw [List.prefix_nil.1 hrest])) hne
      exact isFolder_iff.2 (.inr (.inl (by simp)))
    · exact isFolder_iff.2 (.inr (.inl fun step hs => hback step (hp.subset hs)))
    · exact hentry _ (exists_of_node?_eq_some hn) (List.prefix_refl _)
    · exact hentry entry he hpe
  · obtain ⟨node, hn⟩ := exists_of_isDocument h
    exact hentry _ hn (List.prefix_refl _)

theorem mem_nodes_put {entry : Place × Node} :
    entry ∈ (disk.put place node).nodes ↔ entry = (place, node) ∨ entry ∈ disk.nodes ∧ entry.1 ≠ place := by
  simp [put]

/-- A new folder is no document. -/
theorem isDocument_put_folder (h : disk.isDocument place = false) (other : Place) :
    (disk.put place .folder).isDocument other = disk.isDocument other := by
  by_cases he : place = other
  · subst he
    rw [h, isDocument, node?_put, if_pos rfl]
  · rw [isDocument, isDocument, node?_put, if_neg he]

/-- Something new makes folders of nothing but the places on the way to it. -/
theorem isFolder_put_of_not_isPrefix (h : ¬ other <+: place) :
    (disk.put place node).isFolder other = disk.isFolder other := by
  have hne : place ≠ other := fun he => h (he ▸ List.prefix_refl _)
  rw [Bool.eq_iff_iff, isFolder_iff, isFolder_iff, node?_put, if_neg hne]
  refine or_congr_right (or_congr_right (or_congr_right ⟨?_, ?_⟩))
  · rintro ⟨entry, he, hp, hn⟩
    rcases mem_nodes_put.1 he with rfl | ⟨he, -⟩
    · exact absurd hp h
    · exact ⟨entry, he, hp, hn⟩
  · rintro ⟨entry, he, hp, hn⟩
    exact ⟨entry, mem_nodes_put.2 (.inr ⟨he, fun hq => h (hq ▸ hp)⟩), hp, hn⟩

/-- Folders stay folders when something is put elsewhere. -/
theorem isFolder_put_of_isFolder (hne : place ≠ other) (h : disk.isFolder other = true) :
    (disk.put place node).isFolder other = true := by
  rw [isFolder_iff, node?_put, if_neg hne]
  rcases isFolder_iff.1 h with hr | hb | hn | ⟨entry, he, hp, hq⟩
  · exact .inl hr
  · exact .inr (.inl hb)
  · exact .inr (.inr (.inl hn))
  · refine .inr (.inr (.inr ?_))
    by_cases hpl : entry.1 = place
    · exact ⟨(place, node), mem_nodes_put.2 (.inl rfl), hpl ▸ hp, hne⟩
    · exact ⟨entry, mem_nodes_put.2 (.inr ⟨he, hpl⟩), hp, hq⟩

/-! ### Making folders -/

/-- Along a way that can be gone, all folders but the last one are there already. -/
theorem makeAlong_dropLast (h : steps.foldlM disk.follow? place = .ok last) :
    disk.makeAlong place steps.dropLast = (.ok (), disk) := by
  induction steps generalizing place with
  | nil => rfl
  | cons step rest ih =>
    cases rest with
    | nil => rfl
    | cons second rest =>
      obtain ⟨-, htail⟩ := foldlM_follow?_cons h
      have hfolder := (follow?_eq_ok_iff.1 (foldlM_follow?_cons htail).1).2.1
      rw [List.dropLast_cons_cons, makeAlong, if_pos hfolder]
      exact ih htail

/-- Making folders along steps that lead on changes no document and makes folders on the way only. -/
theorem makeAlong_spec (disk : Disk) (place : Place) (h : ".." ∉ steps) :
    (∀ other, (disk.makeAlong place steps).2.isDocument other = disk.isDocument other) ∧
      ∀ other, ¬ other <+: place ++ steps →
        (disk.makeAlong place steps).2.isFolder other = disk.isFolder other := by
  induction steps generalizing disk place with
  | nil => exact ⟨fun _ => rfl, fun _ _ => rfl⟩
  | cons step rest ih =>
    rw [List.mem_cons, not_or] at h
    have hnext : Path.follow place step = place ++ [step] := if_pos (Ne.symm h.1)
    have hway : place ++ step :: rest = place ++ [step] ++ rest := by simp
    rw [makeAlong, hway, hnext]
    split
    · exact ih disk (place ++ [step]) h.2
    split
    · exact ⟨fun _ => rfl, fun _ _ => rfl⟩
    next hdoc =>
    split
    · exact ⟨fun _ => rfl, fun _ _ => rfl⟩
    split
    · exact ⟨fun _ => rfl, fun _ _ => rfl⟩
    · obtain ⟨hdocs, hfolders⟩ := ih (disk.put (place ++ [step]) .folder) (place ++ [step]) h.2
      refine ⟨fun other => ?_, fun other ho => ?_⟩
      · rw [hdocs, isDocument_put_folder (Bool.eq_false_iff.2 hdoc)]
      · rw [hfolders other ho]
        exact isFolder_put_of_not_isPrefix fun hp => ho (hp.trans (List.prefix_append _ _))

/-- A way that can be gone on one disk can be gone on another one with the same documents, where all places on
the way are folders. -/
theorem foldlM_follow?_of_folders (h : steps.foldlM disk'.follow? place = .ok last) (hb : ".." ∉ steps)
    (hd : ∀ other, disk'.isDocument other = disk.isDocument other)
    (hf : ∀ other, other <+: last → other ≠ last → disk.isFolder other = true) :
    steps.foldlM disk.follow? place = .ok last := by
  induction steps generalizing place with
  | nil => exact h
  | cons step rest ih =>
    obtain ⟨hhead, htail⟩ := foldlM_follow?_cons h
    have hlast : last = place ++ step :: rest := by rw [foldlM_follow? h, Path.foldl_follow hb]
    obtain ⟨hdoc, -, hshort, -⟩ := follow?_eq_ok_iff.1 hhead
    have hstep : disk.follow? place step = .ok (Path.follow place step) :=
      follow?_eq_ok_iff.2 ⟨(hd place).symm.trans hdoc,
        hf place (hlast ▸ List.prefix_append _ _) (by rw [hlast]; simp), hshort, rfl⟩
    rw [List.foldlM_cons, hstep]
    exact ih htail (fun hmem => hb (List.mem_cons_of_mem _ hmem))

theorem locate_eq (h : path.isPossible = true) : disk.locate path = path.steps.foldlM disk.follow? path.start :=
  if_pos h

theorem isPossible_of_locate (h : disk.locate path = .ok place) : path.isPossible = true := by
  unfold locate at h
  split at h
  next hp => exact hp
  · cases h

/-- There is something at a path that leads to a folder, or to a document and does not end as a folder. -/
theorem contains_eq_true_iff : disk.contains path = true ↔ disk.locate path = .ok path.place ∧ path ≠ "" ∧
    (disk.isFolder path.place = true ∨ path.endsAsFolder = false ∧ disk.isDocument path.place = true) := by
  unfold contains
  cases hl : disk.locate path with
  | error e => simp
  | ok place =>
    obtain rfl := place_of_locate hl
    simp

/-- Where a path leads somewhere, the folder above it is there already. -/
theorem makeParent_of_locate (h : disk.locate path = .ok place) : (disk.makeParent path).2 = disk := by
  unfold makeParent
  cases hf : path.parent? with
  | none => rfl
  | some folder =>
    obtain ⟨hstart, hsteps⟩ := Path.parent?_eq_some hf
    rw [locate_eq (isPossible_of_locate h)] at h
    simp only [makeFolders]
    split
    · rw [hstart, hsteps, makeAlong_dropLast h]
    · rfl

/-- Making the folder above a path that leads on only changes no document, and nothing at the path itself. -/
theorem makeParent_spec (disk : Disk) (h : ".." ∉ path.steps) :
    (∀ other, (disk.makeParent path).2.isDocument other = disk.isDocument other) ∧
      (disk.makeParent path).2.isFolder path.place = disk.isFolder path.place := by
  unfold makeParent
  cases hf : path.parent? with
  | none => exact ⟨fun _ => rfl, rfl⟩
  | some folder =>
    obtain ⟨hstart, hsteps⟩ := Path.parent?_eq_some hf
    simp only [makeFolders]
    split
    · rw [hstart, hsteps]
      by_cases hnil : path.steps = []
      · rw [hnil]
        exact ⟨fun _ => rfl, rfl⟩
      · obtain ⟨hdocs, hfolders⟩ := makeAlong_spec disk path.start fun hmem => h (List.dropLast_subset _ hmem)
        refine ⟨hdocs, hfolders _ fun hp => ?_⟩
        -- the path is a step longer than the way above it
        have hlength := hp.length_le
        have hpos := List.length_pos_iff.2 hnil
        rw [Path.place, Path.foldl_follow h] at hlength
        simp only [List.length_append, List.length_dropLast] at hlength
        omega
    · exact ⟨fun _ => rfl, rfl⟩

/-- Making the folder above a path that leads on only brings nothing to the path. -/
theorem contains_makeParent (disk : Disk) (h : ".." ∉ path.steps) :
    (disk.makeParent path).2.contains path = disk.contains path := by
  obtain ⟨hdocs, hfolder⟩ := makeParent_spec disk h
  rw [Bool.eq_iff_iff]
  constructor
  · intro hc
    obtain ⟨hl, hne, hat⟩ := contains_eq_true_iff.1 hc
    rw [hdocs, hfolder] at hat
    have hfolders : ∀ other, other <+: path.place → other ≠ path.place → disk.isFolder other = true :=
      fun other hp ho => isFolder_of_isPrefix hp ho (hat.imp_right And.right)
    have hp := isPossible_of_locate hl
    rw [locate_eq hp] at hl
    exact contains_eq_true_iff.2
      ⟨(locate_eq hp).trans (foldlM_follow?_of_folders hl h hdocs hfolders), hne, hat⟩
  · intro hc
    rw [makeParent_of_locate (contains_eq_true_iff.1 hc).1]
    exact hc

/-! ### Writing -/

/-- A way through folders stays what it is when a document is put at a place that is none. -/
theorem foldlM_follow?_put (hfolder : disk.isFolder other = false) (h : steps.foldlM disk.follow? place = .ok last) :
    steps.foldlM (disk.put other node).follow? place = .ok last := by
  induction steps generalizing place with
  | nil => exact h
  | cons step rest ih =>
    obtain ⟨hhead, htail⟩ := foldlM_follow?_cons h
    obtain ⟨hdoc, hplace, hshort, -⟩ := follow?_eq_ok_iff.1 hhead
    have hne : other ≠ place := by
      rintro rfl
      rw [hplace] at hfolder
      cases hfolder
    have hstep : (disk.put other node).follow? place step = .ok (Path.follow place step) := by
      refine follow?_eq_ok_iff.2 ⟨?_, isFolder_put_of_isFolder hne hplace, hshort, rfl⟩
      rw [isDocument, node?_put, if_neg hne]
      exact hdoc
    rw [List.foldlM_cons, hstep]
    exact ih htail

/-- A document that was written is found by its path, with what was written. -/
theorem read_of_write {content : String} (h : disk.write path content = .ok disk') :
    disk'.contains path = true ∧ disk'.read path = .ok content := by
  unfold write at h
  cases hl : disk.locate path with
  | error e => rw [hl] at h; cases h
  | ok place =>
    simp only [hl, bind, Except.bind] at h
    split at h
    · cases h
    next hplain =>
    split at h
    · cases h
    · cases h
      rw [Bool.not_eq_true, Bool.or_eq_false_iff] at hplain
      obtain ⟨hend, hfolder⟩ := hplain
      obtain rfl := place_of_locate hl
      have hp := isPossible_of_locate hl
      rw [locate_eq hp] at hl
      have hl' : (disk.put path.place (.text content)).locate path = .ok path.place :=
        (locate_eq hp).trans (foldlM_follow?_put hfolder hl)
      have hnode : (disk.put path.place (.text content)).node? path.place = some (.text content) := by
        rw [node?_put, if_pos rfl]
      have hne : path ≠ "" := by
        rintro rfl
        cases hfolder
      refine ⟨contains_eq_true_iff.2 ⟨hl', hne, .inr ⟨hend, by rw [isDocument, hnode]⟩⟩, ?_⟩
      simp [read, hl', hnode, hend, bind, Except.bind]

end Disk

end TableDesk
