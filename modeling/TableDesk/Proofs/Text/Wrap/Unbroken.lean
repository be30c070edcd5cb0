import TableDesk.Proofs.Text.Wrap

/-!
A line is broken only where it must be. A word that fits on a line is written on one line, since the pen looks
at the whole word before it writes its first character; and a paragraph that fits on a line is not broken at
all. Both need that the width of the word in question is the sum over its characters.
-/

namespace TableDesk.Text

variable {charWidth : Char → Nat} {wordWidth : List Char → Nat} {limit : Nat}

/-- The width of a word, without the white space at its end, is the sum over its characters. -/
def Additive (charWidth : Char → Nat) (wordWidth : List Char → Nat) (word : List Char) : Prop :=
  wordWidth (trimEnd word) = columnSum charWidth (trimEnd word)

namespace Pen

/-! ### Writing without a break -/

theorem foldl_put_of_le (text : List Char) {pen : Pen} (h : pen.used + columnSum charWidth text ≤ limit) :
    text.foldl (Pen.put charWidth limit) pen =
      { pen with line := pen.line ++ text, used := pen.used + columnSum charWidth text } := by
  induction text generalizing pen with
  | nil => simp
  | cons c rest ih =>
    rw [columnSum_cons, ← Nat.add_assoc] at h
    have hput : pen.put charWidth limit c =
        { pen with line := pen.line ++ [c], used := pen.used + charWidth c } := by
      unfold Pen.put
      rw [if_neg (by omega)]
    rw [List.foldl_cons, hput, ih h]
    simp [Nat.add_assoc]

theorem foldl_putWord_of_le (words : List (List Char)) (pen : Pen)
    (hsum : ∀ word ∈ words, Additive charWidth wordWidth word)
    (h : pen.used + columnSum charWidth words.flatten ≤ limit) :
    words.foldl (Pen.putWord charWidth wordWidth limit) pen =
      { pen with line := pen.line ++ words.flatten, used := pen.used + columnSum charWidth words.flatten } := by
  induction words generalizing pen with
  | nil => simp
  | cons word rest ih =>
    rw [List.flatten_cons, columnSum_append, ← Nat.add_assoc] at h
    have htrim := columnSum_trimEnd_le charWidth word
    have hword : wordWidth (trimEnd word) = columnSum charWidth (trimEnd word) := hsum word List.mem_cons_self
    have hput : pen.putWord charWidth wordWidth limit word =
        { pen with line := pen.line ++ word, used := pen.used + columnSum charWidth word } := by
      unfold Pen.putWord
      rw [if_neg (by omega)]
      exact foldl_put_of_le word (by omega)
    rw [List.foldl_cons, hput, ih _ (fun other ho => hsum other (List.mem_cons_of_mem word ho)) h]
    simp [Nat.add_assoc]

/-! ### What is written stays -/

/-- The second pen has written more: the lines of the first one stay, and so does what its line begins with. -/
def Extends (p q : Pen) : Prop :=
  ∃ more, (q.done = p.done ∧ q.line = p.line ++ more) ∨
    ∃ below, q.done = p.done ++ trimEnd (p.line ++ more) :: below

theorem Extends.refl (p : Pen) : Extends p p := ⟨[], .inl ⟨rfl, by simp⟩⟩

theorem Extends.break {p q : Pen} (h : Extends p q) : Extends p q.break := by
  obtain ⟨more, ⟨hd, hl⟩ | ⟨below, hd⟩⟩ := h
  · exact ⟨more, .inr ⟨[], by simp [Pen.break, hd, hl]⟩⟩
  · exact ⟨more, .inr ⟨below ++ [trimEnd q.line], by simp [Pen.break, hd]⟩⟩

theorem Extends.push {p q : Pen} (h : Extends p q) (c : Char) (used : Nat) :
    Extends p { q with line := q.line ++ [c], used } := by
  obtain ⟨more, ⟨hd, hl⟩ | ⟨below, hd⟩⟩ := h
  · exact ⟨more ++ [c], .inl ⟨hd, by simp [hl]⟩⟩
  · exact ⟨more, .inr ⟨below, hd⟩⟩

theorem extends_kept (p : Pen) : Kept charWidth limit (Extends p) where
  newLine _ h := h.break
  push _ c h _ := h.push c _

theorem Extends.exists_done_break {p q : Pen} (h : Extends p q) :
    ∃ more below, q.break.done = p.done ++ trimEnd (p.line ++ more) :: below := by
  obtain ⟨more, ⟨hd, hl⟩ | ⟨below, hd⟩⟩ := h
  · exact ⟨more, [], by simp [Pen.break, hd, hl]⟩
  · exact ⟨more, below ++ [trimEnd q.line], by simp [Pen.break, hd]⟩

end Pen

/-! ### A word that fits -/

/-- The white space at the end of a line leaves a trimmed word on it alone. -/
theorem exists_trimEnd_around (line word more : List Char) :
    ∃ start rest, trimEnd (line ++ trimEnd word ++ more) = start ++ trimEnd word ++ rest ∧
      visible start = visible line := by
  rw [trimEnd_append, trimEnd_append, trimEnd_idem]
  by_cases hmore : trimEnd more = []
  · by_cases hword : trimEnd word = []
    · exact ⟨trimEnd line, [], by simp [hmore, hword], (DropsBlanks.trimEnd line).visible⟩
    · exact ⟨line, [], by simp [hmore, hword], rfl⟩
  · exact ⟨line, trimEnd more, by simp [hmore], rfl⟩

/-- A word that fits is written on one line, after all that comes before it. -/
theorem Pen.exists_putWord_extends {pen : Pen} (hpen : pen.Sound charWidth limit) {word : List Char}
    (hsum : Additive charWidth wordWidth word) (hfits : columnSum charWidth (trimEnd word) ≤ limit) :
    ∃ p : Pen, DropsBlanks p.written pen.written ∧
      Pen.Extends { p with line := p.line ++ trimEnd word, used := p.used + columnSum charWidth (trimEnd word) }
        (pen.putWord charWidth wordWidth limit word) := by
  obtain ⟨blanks, -, he⟩ := exists_trimEnd_append word
  have hextends : ∀ p : Pen, p.used + columnSum charWidth (trimEnd word) ≤ limit →
      Pen.Extends { p with line := p.line ++ trimEnd word, used := p.used + columnSum charWidth (trimEnd word) }
        (word.foldl (Pen.put charWidth limit) p) := by
    intro p hp
    have hfold : word.foldl (Pen.put charWidth limit) p =
        blanks.foldl (Pen.put charWidth limit) ((trimEnd word).foldl (Pen.put charWidth limit) p) := by
      rw [← List.foldl_append, he]
    rw [hfold, foldl_put_of_le (trimEnd word) hp]
    exact (extends_kept _).foldl_put (Extends.refl _) blanks
  unfold Pen.putWord
  split
  · exact ⟨pen.break, pen.written_break, hextends pen.break (by simpa [Pen.break] using hfits)⟩
  next hstay =>
    refine ⟨pen, .refl _, hextends pen ?_⟩
    rw [Additive] at hsum
    by_cases hline : pen.line = []
    · have hused : pen.used = 0 := by rw [hpen.used, hline]; rfl
      omega
    · have : ¬ pen.used + wordWidth (trimEnd word) > limit := fun hover => hstay ⟨hover, hline⟩
      omega

/-- A word that fits is on one line of its paragraph, with what comes before it before it, and with what comes
after it after it. -/
theorem exists_wrapParagraph_eq {paragraph : List Char} {front back : List (List Char)} {word : List Char}
    (hs : splitAfter ' ' paragraph = front ++ word :: back) (hsum : Additive charWidth wordWidth word)
    (hfits : columnSum charWidth (trimEnd word) ≤ limit) :
    ∃ above start rest below,
      wrapParagraph charWidth wordWidth limit paragraph = above ++ (start ++ trimEnd word ++ rest) :: below ∧
      visible (above.flatten ++ start) = visible front.flatten ∧
      visible (rest ++ below.flatten) = visible back.flatten := by
  have hpen := Pen.sound_foldl_putWord charWidth wordWidth limit front
  have hfront := Pen.written_foldl_putWord charWidth wordWidth limit front Pen.start
  obtain ⟨p, hwritten, hextends⟩ := Pen.exists_putWord_extends hpen hsum hfits
  obtain ⟨more, below, hdone⟩ :=
    ((Pen.extends_kept _).foldl_putWord hextends wordWidth back).exists_done_break
  obtain ⟨start, rest, hline, hstart⟩ := exists_trimEnd_around p.line word more
  have hwrap : wrapParagraph charWidth wordWidth limit paragraph =
      p.done ++ (start ++ trimEnd word ++ rest) :: below := by
    rw [← hline, ← hdone, wrapParagraph, hs, List.foldl_append, List.foldl_cons]
  have hbefore : visible (p.done.flatten ++ start) = visible front.flatten := by
    have h := (hwritten.trans hfront).visible
    simpa [Pen.written, Pen.start, hstart] using h
  refine ⟨p.done, start, rest, below, hwrap, hbefore, ?_⟩
  -- what is visible of the paragraph is that before the word, that of the word, and the rest
  have hall := (dropsBlanks_wrapParagraph charWidth wordWidth limit paragraph).visible
  rw [hwrap, ← flatten_splitAfter ' ' paragraph, hs] at hall
  have hword := (DropsBlanks.trimEnd word).visible
  simp only [List.flatten_append, List.flatten_cons, visible_append, List.append_assoc, hword] at hall hbefore ⊢
  rw [← List.append_assoc, hbefore] at hall
  exact List.append_cancel_left (List.append_cancel_left hall)

/-- A paragraph that fits is one line. -/
theorem wrapParagraph_of_le {paragraph : List Char}
    (hsum : ∀ word ∈ splitAfter ' ' paragraph, Additive charWidth wordWidth word)
    (h : columnSum charWidth paragraph ≤ limit) :
    wrapParagraph charWidth wordWidth limit paragraph = [trimEnd paragraph] := by
  have hwords := Pen.foldl_putWord_of_le (splitAfter ' ' paragraph) Pen.start hsum
    (by simpa [flatten_splitAfter, Pen.start] using h)
  rw [wrapParagraph, hwords, flatten_splitAfter]
  rfl

/-- A word of a paragraph whose width is the sum over its characters, and fits, is on one line of the wrapped
text, in its place. A paragraph of such words that fits with all its white space is one line. -/
theorem breaks_only_where_it_must (charWidth : Char → Nat) (wordWidth : List Char → Nat) (limit : Nat)
    {text : List Char} {before after : List (List Char)} {paragraph : List Char}
    (hl : lines text = before ++ paragraph :: after) :
    (∀ front word back, splitAfter ' ' paragraph = front ++ word :: back → Additive charWidth wordWidth word →
      columnSum charWidth (trimEnd word) ≤ max limit 1 →
      ∃ above start rest below,
        wrap charWidth wordWidth limit text = above ++ (start ++ trimEnd word ++ rest) :: below ∧
        visible (above.flatten ++ start) = visible (before.flatten ++ front.flatten) ∧
        visible (rest ++ below.flatten) = visible (back.flatten ++ after.flatten)) ∧
      ((∀ word ∈ splitAfter ' ' paragraph, Additive charWidth wordWidth word) →
        columnSum charWidth paragraph ≤ max limit 1 →
        wrap charWidth wordWidth limit text =
          before.flatMap (wrapParagraph charWidth wordWidth (max limit 1)) ++
            trimEnd paragraph :: after.flatMap (wrapParagraph charWidth wordWidth (max limit 1))) := by
  have hwrap : wrap charWidth wordWidth limit text =
      before.flatMap (wrapParagraph charWidth wordWidth (max limit 1)) ++
        (wrapParagraph charWidth wordWidth (max limit 1) paragraph ++
          after.flatMap (wrapParagraph charWidth wordWidth (max limit 1))) := by
    rw [wrap, hl, List.flatMap_append, List.flatMap_cons]
  constructor
  · intro front word back hs hsum hfits
    obtain ⟨above, start, rest, below, he, hbefore, hafter⟩ := exists_wrapParagraph_eq hs hsum hfits
    have hb := (dropsBlanks_wrapLines charWidth wordWidth (max limit 1) before).visible
    have ha := (dropsBlanks_wrapLines charWidth wordWidth (max limit 1) after).visible
    refine ⟨_, start, rest, _, by rw [hwrap, he, List.append_assoc, List.cons_append, ← List.append_assoc], ?_, ?_⟩
    · simp only [List.flatten_append, visible_append, List.append_assoc] at hbefore ⊢
      rw [hb, hbefore]
    · simp only [List.flatten_append, visible_append] at hafter ⊢
      rw [ha, ← List.append_assoc, hafter]
  · intro hsum h
    rw [hwrap, wrapParagraph_of_le hsum h]
    rfl

/-- A break before the third word leaves the second one whole, and a paragraph behind it is not broken. -/
theorem broken_before_gamma :
    let text := "alpha beta gamma\n close ".toList
    (∃ above start rest below,
      wrap charColumns width 11 text = above ++ (start ++ "beta".toList ++ rest) :: below ∧
        visible (above.flatten ++ start) = "alpha".toList ∧
        visible (rest ++ below.flatten) = "gammaclose".toList) ∧
      wrap charColumns width 11 text =
        wrapParagraph charColumns width 11 "alpha beta gamma".toList ++ [" close".toList] := by
  intro text
  have hlines : lines text = ["alpha beta gamma".toList, " close ".toList] := by decide +kernel
  constructor
  · have hword := (breaks_only_where_it_must charColumns width 11
      (show lines text = [] ++ "alpha beta gamma".toList :: [" close ".toList] from hlines)).1
    obtain ⟨above, start, rest, below, he, hb, ha⟩ := hword ["alpha ".toList] "beta ".toList ["gamma".toList]
      (by decide +kernel) (show width _ = columnSum _ _ by decide +kernel) (by decide +kernel)
    exact ⟨above, start, rest, below, he, hb.trans (by decide +kernel), ha.trans (by decide +kernel)⟩
  · have hwhole := (breaks_only_where_it_must charColumns width 11
      (show lines text = ["alpha beta gamma".toList] ++ " close ".toList :: [] from hlines)).2
    refine (hwhole ?_ (by decide +kernel)).trans (by decide +kernel)
    unfold Additive
    decide +kernel

end TableDesk.Text
