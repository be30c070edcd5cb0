import Mathlib.Algebra.GroupWithZero.Nat
import TableDesk.Proofs.Text.Lines
import TableDesk.Text.Width
import TableDesk.Text.Wrap

/-!
Breaking a text into lines keeps all of it but white space, and no line is too wide unless a single character
is. A line that is being written may go over the limit, but only by spaces at its end, which a break takes
away: that is what every step of the pen preserves. The widths of characters and of words are arbitrary
functions.
-/

namespace TableDesk.Text

variable {charWidth : Char → Nat} {wordWidth : List Char → Nat} {limit : Nat}

def columnSum (charWidth : Char → Nat) (text : List Char) : Nat := (text.map charWidth).sum

@[simp] theorem columnSum_nil : columnSum charWidth [] = 0 := rfl

@[simp] theorem columnSum_cons (c : Char) (rest : List Char) :
    columnSum charWidth (c :: rest) = charWidth c + columnSum charWidth rest := rfl

@[simp] theorem columnSum_append (text more : List Char) :
    columnSum charWidth (text ++ more) = columnSum charWidth text + columnSum charWidth more := by
  simp [columnSum]

theorem columnSum_trimEnd_le (charWidth : Char → Nat) (text : List Char) :
    columnSum charWidth (trimEnd text) ≤ columnSum charWidth text := by
  obtain ⟨blanks, -, he⟩ := exists_trimEnd_append text
  have := congrArg (columnSum charWidth) he
  rw [columnSum_append] at this
  omega

namespace Pen

/-! ### What every step preserves -/

/-- The property stays when a line ends and when a character is added that fits, that is a space, or that has
the line to itself. These are the steps of the pen. -/
structure Kept (charWidth : Char → Nat) (limit : Nat) (P : Pen → Prop) : Prop where
  newLine : ∀ pen, P pen → P pen.break
  push : ∀ pen c, P pen → pen.used + charWidth c ≤ limit ∨ c = ' ' ∨ pen.line = [] →
    P { pen with line := pen.line ++ [c], used := pen.used + charWidth c }

namespace Kept

variable {P : Pen → Prop} {pen : Pen}

theorem put (h : Kept charWidth limit P) (hp : P pen) (c : Char) : P (pen.put charWidth limit c) := by
  unfold Pen.put
  split
  · exact h.push pen.break c (h.newLine pen hp) (.inr (.inr rfl))
  next hstay =>
    refine h.push pen c hp ?_
    by_cases hover : pen.used + charWidth c > limit
    · exact .inr (Classical.not_not.1 fun hnot => hstay ⟨hover, hnot⟩)
    · exact .inl (Nat.not_lt.1 hover)

theorem foldl_put (h : Kept charWidth limit P) (hp : P pen) (text : List Char) :
    P (text.foldl (Pen.put charWidth limit) pen) :=
  List.foldlRecOn text _ hp fun _ hq c _ => h.put hq c

theorem putWord (h : Kept charWidth limit P) (hp : P pen) (wordWidth : List Char → Nat) (word : List Char) :
    P (pen.putWord charWidth wordWidth limit word) := by
  unfold Pen.putWord
  split
  · exact h.foldl_put (h.newLine pen hp) word
  · exact h.foldl_put hp word

theorem foldl_putWord (h : Kept charWidth limit P) (hp : P pen) (wordWidth : List Char → Nat)
    (words : List (List Char)) : P (words.foldl (Pen.putWord charWidth wordWidth limit) pen) :=
  List.foldlRecOn words _ hp fun _ hq word _ => h.putWord hq wordWidth word

end Kept

/-! ### What is written -/

section Written

variable (charWidth : Char → Nat) (wordWidth : List Char → Nat) (limit : Nat)

def written (pen : Pen) : List Char := pen.done.flatten ++ pen.line

theorem written_break (pen : Pen) : DropsBlanks pen.break.written pen.written := by
  have h := (DropsBlanks.refl pen.done.flatten).append (DropsBlanks.trimEnd pen.line)
  simpa [written, Pen.break] using h

theorem written_put (pen : Pen) (c : Char) :
    DropsBlanks (pen.put charWidth limit c).written (pen.written ++ [c]) := by
  unfold Pen.put
  split
  · simpa [written] using pen.written_break.append (DropsBlanks.refl [c])
  · simpa [written] using DropsBlanks.refl (pen.written ++ [c])

/-- If each step writes its item, all steps write all items. -/
theorem written_foldl {α : Type} (text : α → List Char) {step : Pen → α → Pen}
    (h : ∀ pen a, DropsBlanks (step pen a).written (pen.written ++ text a)) (items : List α) (pen : Pen) :
    DropsBlanks (items.foldl step pen).written (pen.written ++ items.flatMap text) := by
  induction items generalizing pen with
  | nil => simpa using DropsBlanks.refl pen.written
  | cons a rest ih =>
    have hrest := (ih (step pen a)).trans ((h pen a).append (DropsBlanks.refl (rest.flatMap text)))
    simpa using hrest

theorem written_foldl_put (text : List Char) (pen : Pen) :
    DropsBlanks (text.foldl (Pen.put charWidth limit) pen).written (pen.written ++ text) := by
  simpa using written_foldl (fun c => [c]) (written_put charWidth limit) text pen

theorem written_putWord (pen : Pen) (word : List Char) :
    DropsBlanks (pen.putWord charWidth wordWidth limit word).written (pen.written ++ word) := by
  unfold Pen.putWord
  split
  · exact (written_foldl_put charWidth limit word pen.break).trans (pen.written_break.append (DropsBlanks.refl word))
  · exact written_foldl_put charWidth limit word pen

theorem written_foldl_putWord (words : List (List Char)) (pen : Pen) :
    DropsBlanks (words.foldl (Pen.putWord charWidth wordWidth limit) pen).written
      (pen.written ++ words.flatten) := by
  simpa using written_foldl id (written_putWord charWidth wordWidth limit) words pen

end Written

end Pen

section Wrapped

variable (charWidth : Char → Nat) (wordWidth : List Char → Nat) (limit : Nat)

theorem dropsBlanks_wrapParagraph (paragraph : List Char) :
    DropsBlanks (wrapParagraph charWidth wordWidth limit paragraph).flatten paragraph := by
  have h := (Pen.written_break _).trans
    (Pen.written_foldl_putWord charWidth wordWidth limit (splitAfter ' ' paragraph) Pen.start)
  simpa [Pen.written, Pen.break, Pen.start, wrapParagraph, flatten_splitAfter] using h

theorem dropsBlanks_wrapLines (paragraphs : List (List Char)) :
    DropsBlanks (paragraphs.flatMap (wrapParagraph charWidth wordWidth limit)).flatten paragraphs.flatten := by
  rw [List.flatMap_def, List.flatten_flatten, List.map_map, ← List.flatMap_def]
  exact .flatMap _ fun paragraph _ => dropsBlanks_wrapParagraph charWidth wordWidth limit paragraph

theorem dropsBlanks_wrap (text : List Char) : DropsBlanks (wrap charWidth wordWidth limit text).flatten text :=
  (dropsBlanks_wrapLines charWidth wordWidth (max limit 1) (lines text)).trans (dropsBlanks_lines text)

end Wrapped

/-! ### What fits -/

/-- At most as wide as the limit, or one character that may be wider. -/
def Fits (charWidth : Char → Nat) (limit : Nat) (line : List Char) : Prop :=
  columnSum charWidth line ≤ limit ∨ ∃ c, line = [c]

theorem Fits.trimEnd {line : List Char} (h : Fits charWidth limit line) : Fits charWidth limit (trimEnd line) := by
  rcases h with h | ⟨c, rfl⟩
  · exact .inl (Nat.le_trans (columnSum_trimEnd_le charWidth line) h)
  · rw [trimEnd_cons_of_eq_nil c trimEnd_nil]
    split
    · exact .inl (Nat.zero_le limit)
    · exact .inr ⟨c, rfl⟩

namespace Pen

/-- What every step of the pen preserves: without the spaces at its end, the line fits. -/
structure Sound (charWidth : Char → Nat) (limit : Nat) (pen : Pen) : Prop where
  used : pen.used = columnSum charWidth pen.line
  line : ∃ text spaces, pen.line = text ++ List.replicate spaces ' ' ∧ Fits charWidth limit text
  done : ∀ line ∈ pen.done, Fits charWidth limit line ∧ trimEnd line = line

theorem start_sound : Sound charWidth limit .start where
  used := rfl
  line := ⟨[], 0, rfl, .inl (Nat.zero_le limit)⟩
  done := by simp [start]

theorem Sound.break {pen : Pen} (h : pen.Sound charWidth limit) : pen.break.Sound charWidth limit where
  used := rfl
  line := ⟨[], 0, rfl, .inl (Nat.zero_le limit)⟩
  done := by
    intro line hl
    rcases List.mem_append.1 hl with hl | hl
    · exact h.done line hl
    · obtain rfl := List.mem_singleton.1 hl
      obtain ⟨text, spaces, he, hfits⟩ := h.line
      have hblank : ∀ c ∈ List.replicate spaces ' ', isBlank c = true := by
        intro c hc
        rw [List.eq_of_mem_replicate hc]
        decide
      refine ⟨?_, trimEnd_idem pen.line⟩
      rw [he, trimEnd_append_of_blank text hblank]
      exact hfits.trimEnd

theorem Sound.push {pen : Pen} (h : pen.Sound charWidth limit) {c : Char}
    (hc : pen.used + charWidth c ≤ limit ∨ c = ' ' ∨ pen.line = []) :
    Sound charWidth limit { pen with line := pen.line ++ [c], used := pen.used + charWidth c } where
  used := by simp [h.used]
  line := by
    rcases hc with hfits | rfl | hempty
    · refine ⟨pen.line ++ [c], 0, by simp, .inl ?_⟩
      simpa [← h.used] using hfits
    · obtain ⟨text, spaces, he, hfits⟩ := h.line
      exact ⟨text, spaces + 1, by rw [he, List.append_assoc, ← List.replicate_succ'], hfits⟩
    · exact ⟨[c], 0, by simp [hempty], .inr ⟨c, rfl⟩⟩
  done := h.done

theorem sound_kept : Kept charWidth limit (Sound charWidth limit) where
  newLine _ h := h.break
  push _ _ h hc := h.push hc

theorem sound_foldl_putWord (charWidth : Char → Nat) (wordWidth : List Char → Nat) (limit : Nat)
    (words : List (List Char)) : (words.foldl (Pen.putWord charWidth wordWidth limit) start).Sound charWidth limit :=
  sound_kept.foldl_putWord start_sound wordWidth words

end Pen

theorem fits_of_mem_wrapParagraph {paragraph line : List Char}
    (h : line ∈ wrapParagraph charWidth wordWidth limit paragraph) :
    Fits charWidth limit line ∧ trimEnd line = line :=
  (Pen.sound_foldl_putWord charWidth wordWidth limit (splitAfter ' ' paragraph)).break.done line h

/-- Every line of the wrapped text is at most as wide as the limit, which is at least one column, or it is one
character that is wider by itself; it does not end in white space and holds no line feed. All lines together
are the text without some of its white space. -/
theorem wrapped_lines_fit (charWidth : Char → Nat) (wordWidth : List Char → Nat) (limit : Nat) (text : List Char) :
    (∀ line ∈ wrap charWidth wordWidth limit text,
      (columnSum charWidth line ≤ max limit 1 ∨ ∃ c, line = [c] ∧ max limit 1 < charWidth c) ∧
        (∀ c, line.getLast? = some c → isBlank c = false) ∧ '\n' ∉ line) ∧
      (wrap charWidth wordWidth limit text).flatten.filter (fun c => !isBlank c) =
        text.filter fun c => !isBlank c := by
  refine ⟨?_, (dropsBlanks_wrap charWidth wordWidth limit text).visible⟩
  intro line hl
  obtain ⟨paragraph, hp, hline⟩ := List.mem_flatMap.1 hl
  obtain ⟨hfits, htrim⟩ := fits_of_mem_wrapParagraph hline
  refine ⟨?_, fun c hc => isBlank_of_getLast?_trimEnd (htrim.symm ▸ hc), fun hn => ?_⟩
  · by_cases hle : columnSum charWidth line ≤ max limit 1
    · exact .inl hle
    · obtain ⟨c, rfl⟩ := hfits.resolve_left hle
      exact .inr ⟨c, rfl, by simpa using hle⟩
  · have hsub : (wrapParagraph charWidth wordWidth (max limit 1) paragraph).flatten.Sublist paragraph :=
      (dropsBlanks_wrapParagraph charWidth wordWidth (max limit 1) paragraph).sublist
    exact not_mem_of_mem_lines hp (hsub.subset (List.mem_flatten.2 ⟨line, hline, hn⟩))

/-- In one column a character of two columns has a line to itself, and spaces before it leave a blank line. -/
theorem one_column_lines_fit :
    let text := "a  删x\r\n".toList
    wrap charColumns width 1 text = [['a'], [], ['删'], ['x']] ∧
      (columnSum charColumns ['删'] ≤ 1 ∨ ∃ c, ['删'] = [c] ∧ 1 < charColumns c) ∧
      (wrap charColumns width 1 text).flatten.filter (fun c => !isBlank c) = ['a', '删', 'x'] := by
  intro text
  have hw : wrap charColumns width 1 text = [['a'], [], ['删'], ['x']] := by decide +kernel
  obtain ⟨hlines, hvisible⟩ := wrapped_lines_fit charColumns width 1 text
  exact ⟨hw, (hlines ['删'] (by simp [hw])).1, hvisible.trans (by decide +kernel)⟩

end TableDesk.Text
