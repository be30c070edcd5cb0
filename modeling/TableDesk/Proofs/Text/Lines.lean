import TableDesk.Proofs.Text.Blank
import TableDesk.Text.Lines

/-!
The lines of a text hold no line feed, and all of the text but its line ends.
-/

namespace TableDesk.Text

/-- A piece has the separator at its end at most. -/
theorem not_mem_dropLast_of_mem_splitAfter {separator : Char} {text piece : List Char}
    (h : piece ∈ splitAfter separator text) : separator ∉ piece.dropLast := by
  induction text generalizing piece with
  | nil => simp [splitAfter] at h
  | cons c rest ih =>
    rw [splitAfter] at h
    split at h
    · rcases List.mem_cons.1 h with rfl | h
      · simp
      · exact ih h
    next hc =>
      split at h
      next => simp [List.mem_singleton.1 h]
      next first others hs =>
        rw [hs] at ih
        rcases List.mem_cons.1 h with rfl | h
        · have hfirst := ih List.mem_cons_self
          cases first with
          | nil => simp
          | cons d first => simpa [Ne.symm hc] using hfirst
        · exact ih (List.mem_cons_of_mem first h)

/-- A line end is a line feed, possibly with a carriage return before it. -/
theorem dropLineEnd_cases (line : List Char) :
    (∃ ending, (ending = ['\r', '\n'] ∨ ending = ['\n']) ∧ line = dropLineEnd line ++ ending) ∨
      dropLineEnd line = line ∧ line.getLast? ≠ some '\n' := by
  unfold dropLineEnd
  split
  next rest h => exact .inl ⟨_, .inl rfl, by simpa using congrArg List.reverse h⟩
  next rest _ h => exact .inl ⟨_, .inr rfl, by simpa using congrArg List.reverse h⟩
  next hcrlf hlf =>
    refine .inr ⟨rfl, fun h => ?_⟩
    obtain ⟨before, rfl⟩ := List.getLast?_eq_some_iff.1 h
    exact hlf before.reverse (by simp)

theorem dropsBlanks_dropLineEnd (line : List Char) : DropsBlanks (dropLineEnd line) line := by
  rcases dropLineEnd_cases line with ⟨ending, hending, he⟩ | ⟨he, -⟩
  · have hblank : ∀ c ∈ ending, isBlank c = true := by
      rcases hending with rfl | rfl <;> exact List.all_eq_true.1 (by decide)
    have h := DropsBlanks.append_blank (dropLineEnd line) hblank
    rwa [← he] at h
  · rw [he]
    exact .refl line

theorem not_mem_of_mem_lines {text line : List Char} (h : line ∈ lines text) : '\n' ∉ line := by
  obtain ⟨piece, hp, rfl⟩ := List.mem_map.1 h
  have hinside := not_mem_dropLast_of_mem_splitAfter hp
  rcases dropLineEnd_cases piece with ⟨ending, hending, he⟩ | ⟨he, hlast⟩
  · rw [he] at hinside
    rcases hending with rfl | rfl
    · rw [List.dropLast_append_of_ne_nil (by simp)] at hinside
      exact fun hm => hinside (List.mem_append_left _ hm)
    · rwa [List.dropLast_concat] at hinside
  · rw [he]
    intro hm
    rcases List.eq_nil_or_concat' piece with rfl | ⟨before, last, rfl⟩
    · contradiction
    · rw [List.dropLast_concat] at hinside
      rcases List.mem_append.1 hm with hm | hm
      · exact hinside hm
      · obtain rfl := List.mem_singleton.1 hm
        exact hlast (by simp)

theorem dropsBlanks_lines (text : List Char) : DropsBlanks (lines text).flatten text := by
  have h : DropsBlanks ((splitAfter '\n' text).flatMap dropLineEnd) (splitAfter '\n' text).flatten :=
    .flatMap dropLineEnd fun line _ => dropsBlanks_dropLineEnd line
  rwa [List.flatMap_def, flatten_splitAfter] at h

end TableDesk.Text
