import TableDesk.Path

/-!
The folder above a path. It begins where the path begins, and its steps are the steps of the path but the last
one, whether that one leads on or back.
-/

namespace TableDesk.Path

/-- The steps that some characters spell, as rows of characters. -/
def names (chars : List Char) : List (List Char) := (split chars).filter isStep

theorem steps_eq (path : Path) : path.steps = (names path.toList).map String.ofList := rfl

theorem split_ne_nil (chars : List Char) : split chars ≠ [] := by
  cases chars with
  | nil => simp [split]
  | cons c rest =>
    have hrest : split rest ≠ [] := split_ne_nil rest
    simp only [split]
    split
    · simp
    · cases hs : split rest with
      | nil => exact absurd hs hrest
      | cons name others => simp

theorem split_append_slash (before after : List Char) :
    split (before ++ '/' :: after) = split before ++ split after := by
  induction before with
  | nil => simp [split]
  | cons c rest ih =>
    simp only [List.cons_append, split, ih]
    split
    · rfl
    · cases hs : split rest with
      | nil => exact absurd hs (split_ne_nil rest)
      | cons name others => rfl

theorem split_of_not_mem {chars : List Char} (h : '/' ∉ chars) : split chars = [chars] := by
  induction chars with
  | nil => rfl
  | cons c rest ih =>
    rw [List.mem_cons, not_or] at h
    rw [split, if_neg (Ne.symm h.1), ih h.2]
    rfl

theorem names_append_slash (before after : List Char) :
    names (before ++ '/' :: after) = names before ++ names after := by
  simp only [names, split_append_slash, List.filter_append]

@[simp] theorem names_nil : names [] = [] := rfl

/-- Without slashes there is one step at most. -/
theorem names_of_not_mem {chars : List Char} (h : '/' ∉ chars) :
    names chars = if isStep chars then [chars] else [] := by
  rw [names, split_of_not_mem h]
  cases hs : isStep chars <;> simp [hs]

/-- What is dropped at the end of a path are no steps. -/
theorem names_reverse_dropTail (tail : List Char) : names (dropTail tail).reverse = names tail.reverse := by
  fun_induction dropTail tail with
  | case1 rest ih =>
    rw [ih, List.reverse_cons, names_append_slash, names_nil, List.append_nil]
  | case2 rest ih =>
    have hback : ('.' :: '/' :: rest).reverse = rest.reverse ++ '/' :: ['.'] := by simp
    rw [ih, hback, List.reverse_cons, names_append_slash, names_append_slash]
    rfl
  | case3 => rfl

theorem names_dropSlashes (chars : List Char) : names (dropSlashes chars) = names chars := by
  rw [dropSlashes, names_reverse_dropTail, List.reverse_reverse]

theorem isSuffix_dropTail (tail : List Char) : dropTail tail <:+ tail := by
  fun_induction dropTail tail with
  | case1 rest ih => exact ih.trans (List.suffix_cons _ _)
  | case2 rest ih => exact ih.trans (List.suffix_cons _ _)
  | case3 => exact List.suffix_refl _

theorem isPrefix_dropSlashes (chars : List Char) : dropSlashes chars <+: chars := by
  have h := List.reverse_prefix.2 (isSuffix_dropTail chars.reverse)
  rwa [List.reverse_reverse] at h

theorem head?_of_isPrefix {chars longer : List Char} (h : chars <+: longer) (hne : chars ≠ []) :
    longer.head? = chars.head? := by
  obtain ⟨more, rfl⟩ := h
  cases chars with
  | nil => exact absurd rfl hne
  | cons c rest => rfl

theorem dropTail_ne_slash (tail rest : List Char) : dropTail tail ≠ '/' :: rest := by
  fun_induction dropTail tail with
  | case1 _ ih => exact ih
  | case2 _ ih => exact ih
  | case3 path hslash _ => exact fun h => hslash rest h

theorem dropTail_ne_dot (tail rest : List Char) : dropTail tail ≠ '.' :: '/' :: rest := by
  fun_induction dropTail tail with
  | case1 _ ih => exact ih
  | case2 _ ih => exact ih
  | case3 path _ hdot => exact fun h => hdot rest h

/-- Slashes and dots that are dropped altogether begin with a slash. -/
theorem getLast?_of_dropTail_eq_nil {tail : List Char} (h : dropTail tail = []) (hne : tail ≠ []) :
    tail.getLast? = some '/' := by
  fun_induction dropTail tail with
  | case1 rest ih =>
    cases rest with
    | nil => rfl
    | cons c rest => exact (List.getLast?_cons_cons ..).trans (ih h (by simp))
  | case2 rest ih => exact (List.getLast?_cons_cons ..).trans (ih h (by simp))
  | case3 path => exact absurd h hne

/-- A path that is dropped altogether begins at the root. -/
theorem head?_of_dropSlashes_eq_nil {chars : List Char} (h : dropSlashes chars = []) (hne : chars ≠ []) :
    chars.head? = some '/' := by
  have hlast := getLast?_of_dropTail_eq_nil (List.reverse_eq_nil_iff.1 h) (fun hr => hne (List.reverse_eq_nil_iff.1 hr))
  rw [← hlast, List.getLast?_reverse]

/-! ### Up to the last slash -/

/-- Up to its last slash, and without any slash after it. -/
theorem exists_upToSlash_append (chars : List Char) : ∃ last, upToSlash chars ++ last = chars ∧ '/' ∉ last := by
  have hparts := List.takeWhile_append_dropWhile (p := (· ≠ '/')) (l := chars.reverse)
  have hall := List.all_takeWhile (p := (· ≠ '/')) (l := chars.reverse)
  refine ⟨(chars.reverse.takeWhile (· ≠ '/')).reverse, ?_, fun hmem => ?_⟩
  · rw [upToSlash, ← List.reverse_append, hparts, List.reverse_reverse]
  · simpa using List.all_eq_true.1 hall '/' (List.mem_reverse.1 hmem)

theorem isPrefix_upToSlash (chars : List Char) : upToSlash chars <+: chars := by
  obtain ⟨last, h, -⟩ := exists_upToSlash_append chars
  exact ⟨last, h⟩

/-- Where there is a slash, a path up to its last slash ends in it. -/
theorem exists_of_upToSlash_ne_nil {chars : List Char} (h : upToSlash chars ≠ []) :
    ∃ above, upToSlash chars = above ++ ['/'] := by
  unfold upToSlash at h ⊢
  cases ha : chars.reverse.dropWhile (· ≠ '/') with
  | nil => exact absurd (congrArg List.reverse ha) h
  | cons c above =>
    have hhead := List.head?_dropWhile_not (p := (· ≠ '/')) (l := chars.reverse)
    rw [ha] at hhead
    obtain rfl : c = '/' := by simpa using hhead
    exact ⟨above.reverse, List.reverse_cons⟩

/-- Without what follows its last slash, a path that has nothing to drop at its end has all steps but the last. -/
theorem names_upToSlash (path : List Char) :
    names (upToSlash (dropSlashes path)) = (names (dropSlashes path)).dropLast := by
  obtain ⟨last, hparts, hlast⟩ := exists_upToSlash_append (dropSlashes path)
  by_cases hnil : upToSlash (dropSlashes path) = []
  · rw [hnil, List.nil_append] at hparts
    rw [hnil, ← hparts, names_of_not_mem hlast]
    split <;> rfl
  obtain ⟨above, ha⟩ := exists_of_upToSlash_ne_nil hnil
  rw [ha] at hparts ⊢
  -- nothing or a single dot after the last slash would have been dropped
  have hstep : isStep last = true := by
    have hback : dropTail path.reverse = last.reverse ++ '/' :: above.reverse := by
      rw [← List.reverse_reverse (dropTail path.reverse), ← dropSlashes, ← hparts]
      simp
    have hne : last ≠ [] := fun h => dropTail_ne_slash path.reverse above.reverse (by rw [hback, h]; rfl)
    have hnd : last ≠ ['.'] := fun h => dropTail_ne_dot path.reverse above.reverse (by rw [hback, h]; rfl)
    simp [isStep, hne, hnd]
  have hsplit : dropSlashes path = above ++ '/' :: last := by rw [← hparts]; simp
  rw [hsplit, names_append_slash, names_append_slash, names_nil, names_of_not_mem hlast, if_pos hstep,
    List.append_nil, List.dropLast_concat]

/-! ### The folder above -/

theorem start_ofList (chars : List Char) :
    start (String.ofList chars) = if chars.head? = some '/' then ["/"] else [] := by
  rw [start, String.toList_ofList]

/-- The folder above a path begins where the path begins, and has all its steps but the last. -/
theorem parent?_eq_some {path folder : Path} (h : path.parent? = some folder) :
    folder.start = path.start ∧ folder.steps = path.steps.dropLast := by
  have hsteps := names_upToSlash path.toList
  rw [names_dropSlashes] at hsteps
  have habove := isPrefix_upToSlash (dropSlashes path.toList)
  unfold parent? at h
  simp only at h
  split at h
  · cases h
  next hchars =>
  split at h
  next hnil =>
    -- a path without a slash is relative, and at most one step long
    cases h
    have hrelative : path.toList.head? ≠ some '/' := by
      obtain ⟨last, hparts, hlast⟩ := exists_upToSlash_append (dropSlashes path.toList)
      rw [hnil, List.nil_append] at hparts
      rw [head?_of_isPrefix (isPrefix_dropSlashes _) hchars, ← hparts]
      exact fun hhead => hlast (List.mem_of_mem_head? hhead)
    rw [hnil] at hsteps
    refine ⟨by rw [start, start, if_neg hrelative]; rfl, ?_⟩
    rw [steps_eq path, ← List.map_dropLast, ← hsteps]
    rfl
  next hne =>
  have hhead := head?_of_isPrefix (habove.trans (isPrefix_dropSlashes _)) hne
  split at h
  next hroot =>
    cases h
    have hslash : path.toList.head? = some '/' := hhead.trans (head?_of_dropSlashes_eq_nil hroot hne)
    refine ⟨by rw [start, start, if_pos hslash]; rfl, ?_⟩
    rw [steps_eq path, ← List.map_dropLast, ← hsteps, ← names_dropSlashes, hroot]
    rfl
  next hfolder =>
    cases h
    refine ⟨?_, ?_⟩
    · rw [start_ofList, start, hhead, head?_of_isPrefix (isPrefix_dropSlashes _) hfolder]
    · rw [steps_eq, steps_eq, String.toList_ofList, names_dropSlashes, hsteps, List.map_dropLast]

end TableDesk.Path
