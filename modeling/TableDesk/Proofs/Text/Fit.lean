import TableDesk.Proofs.Text.Wrap

/-!
Cutting a block of lines to a height. A block that is not too high stays as it is. Of any other one the first lines
stay as they are, and the last line that is kept becomes a start of itself with an ellipsis behind it, which fits
into the width.
-/

namespace TableDesk.Text

variable {charWidth : Char → Nat}

theorem shorten_prefix (charWidth : Char → Nat) (room : Nat) (line : List Char) :
    shorten charWidth room line <+: line := by
  induction line generalizing room with
  | nil => exact List.prefix_rfl
  | cons c rest ih =>
    rw [shorten]
    split
    · exact List.nil_prefix
    · exact List.cons_prefix_cons.2 ⟨rfl, ih _⟩

/-- What is kept of a line leaves a column free, if there is any. -/
theorem columnSum_shorten (charWidth : Char → Nat) (room : Nat) (line : List Char) :
    columnSum charWidth (shorten charWidth room line) + 1 ≤ max room 1 := by
  induction line generalizing room with
  | nil => exact Nat.le_max_right room 1
  | cons c rest ih =>
    rw [shorten]
    split
    · exact Nat.le_max_right room 1
    next hfits =>
      have hrest := ih (room - charWidth c)
      rw [columnSum_cons]
      omega

theorem ellipsize_concat (charWidth : Char → Nat) (width : Nat) (front : List (List Char)) (last : List Char) :
    ellipsize charWidth width (front ++ [last]) = front ++ [shorten charWidth width last ++ ['…']] := by
  induction front with
  | nil => rfl
  | cons line rest ih =>
    have hne : rest ++ [last] ≠ [] := List.concat_ne_nil last rest
    rw [List.cons_append, ellipsize, ih, List.cons_append]
    exact hne

/-- A block that is too high is cut in its last line. -/
theorem fit_of_length_lt (charWidth : Char → Nat) {height : Nat} (width : Nat) {block : List (List Char)} (hpos : 0 < height)
    (h : height < block.length) :
    ∃ front last, block.take height = front ++ [last] ∧
      fit charWidth height width block = front ++ [shorten charWidth width last ++ ['…']] := by
  have hne : block.take height ≠ [] := by
    intro hnil
    have := congrArg List.length hnil
    rw [List.length_take, List.length_nil] at this
    omega
  obtain ⟨front, last, he⟩ := (List.eq_nil_or_concat' _).resolve_left hne
  exact ⟨front, last, he, by rw [fit, if_neg (by omega), he, ellipsize_concat]⟩

theorem fit_zero (charWidth : Char → Nat) (width : Nat) (block : List (List Char)) :
    fit charWidth 0 width block = [] := by
  cases block <;> rfl

/-! ### In columns of a screen -/

theorem columnSum_ellipsis (width : Nat) (line : List Char) :
    columnSum charColumns (shorten charColumns width line ++ ['…']) ≤ max width 1 := by
  have hone : columnSum charColumns ['…'] = 1 := by decide +kernel
  rw [columnSum_append, hone]
  exact columnSum_shorten charColumns width line

/-- Lines kept of a block that may be too high. Of a block that is too high, the last line that is kept is a start
of what it was with an ellipsis behind it. -/
structure CutTo (height width : Nat) (block kept : List (List Char)) : Prop where
  length : kept.length = min height block.length
  whole : block.length ≤ height → kept = block
  front : kept.dropLast = (block.take height).dropLast
  last : height < block.length → ∀ line, (block.take height).getLast? = some line →
    ∃ start, start <+: line ∧ kept.getLast? = some (start ++ ['…']) ∧
      (1 ≤ width → columnSum charColumns (start ++ ['…']) ≤ width)

theorem fit_cutTo (height width : Nat) (block : List (List Char)) :
    CutTo height width block (fit charColumns height width block) := by
  rcases Nat.lt_or_ge height block.length with hlt | hge
  · rcases Nat.eq_zero_or_pos height with rfl | hpos
    · rw [fit_zero]
      exact ⟨by simp, fun h => absurd hlt (Nat.not_lt.2 h), by simp, by simp⟩
    · obtain ⟨front, last, he, hfit⟩ := fit_of_length_lt charColumns width hpos hlt
      have hlength : front.length + 1 = min height block.length := by
        have := congrArg List.length he
        simpa using this.symm
      rw [hfit]
      refine ⟨by simpa using hlength, fun h => absurd hlt (Nat.not_lt.2 h), by simp [he], fun _ line hline => ?_⟩
      obtain rfl : last = line := by simpa [he] using hline
      refine ⟨shorten charColumns width last, shorten_prefix charColumns width last, by simp, fun hone => ?_⟩
      have := columnSum_ellipsis width last
      rwa [Nat.max_eq_left hone] at this
  · rw [fit_of_length_le charColumns width hge]
    exact ⟨(Nat.min_eq_right hge).symm, fun _ => rfl, by rw [List.take_of_length_le hge],
      fun h => absurd h (Nat.not_lt.2 hge)⟩

theorem fits_of_mem_wrap {wordWidth : List Char → Nat} {limit : Nat} {text line : List Char}
    (h : line ∈ wrap charWidth wordWidth limit text) : Fits charWidth (max limit 1) line := by
  obtain ⟨paragraph, -, hline⟩ := List.mem_flatMap.1 h
  exact (fits_of_mem_wrapParagraph hline).1

/-- The lines that are kept of a wrapped text fit as they did before. -/
theorem fits_of_mem_fit {height width : Nat} {block : List (List Char)}
    (h : ∀ line ∈ block, Fits charColumns (max width 1) line) {line : List Char}
    (hl : line ∈ fit charColumns height width block) : Fits charColumns (max width 1) line := by
  rcases Nat.lt_or_ge height block.length with hlt | hge
  · rcases Nat.eq_zero_or_pos height with rfl | hpos
    · simp [fit_zero] at hl
    · obtain ⟨front, last, he, hfit⟩ := fit_of_length_lt charColumns width hpos hlt
      rw [hfit] at hl
      rcases List.mem_append.1 hl with hl | hl
      · exact h line (List.mem_of_mem_take (he ▸ List.mem_append_left _ hl))
      · rw [List.mem_singleton.1 hl]
        exact .inl (columnSum_ellipsis width last)
  · rw [fit_of_length_le charColumns width hge] at hl
    exact h line hl

end TableDesk.Text
