import Mathlib.Data.List.Chain
import TableDesk.Proofs.Text.Wrap

/-!
Breaking a text loses none of its blank paragraphs, but it may add blank lines. The spaces at a break disappear only
at the end of a line: a space that follows another one is a word of its own, and on the next line it stands alone if
the word behind it does not fit there either. If every character takes a column, a line is blank in some width whenever
white space stands at the start of a paragraph or behind other white space, or is not a space; a paragraph that is one
such character, with at most one space behind it, is the only exception. One column is the width to look at, since
every visible character begins a line there. Otherwise no width adds a blank line.
-/

namespace TableDesk.Text

variable {charWidth : Char → Nat} {wordWidth : List Char → Nat} {limit : Nat}

/-! ### Counting -/

/-- The number of lines in which nothing is visible. -/
def blankLines (block : List (List Char)) : Nat := block.countP fun line => visible line = []

@[simp] theorem blankLines_nil : blankLines [] = 0 := rfl

theorem blankLines_append (block more : List (List Char)) :
    blankLines (block ++ more) = blankLines block + blankLines more :=
  List.countP_append

theorem blankLines_cons (line : List Char) (rest : List (List Char)) :
    blankLines (line :: rest) = blankLines [line] + blankLines rest :=
  blankLines_append [line] rest

theorem blankLines_eq_zero_iff {block : List (List Char)} :
    blankLines block = 0 ↔ ∀ line ∈ block, visible line ≠ [] := by
  simp [blankLines, List.countP_eq_zero]

theorem visible_eq_nil_iff {text : List Char} : visible text = [] ↔ ∀ c ∈ text, isBlank c = true := by
  simp [visible, List.filter_eq_nil_iff]

theorem blankLines_eq_length {block : List (List Char)} (h : visible block.flatten = []) :
    blankLines block = block.length := by
  refine List.countP_eq_length.2 fun line hl => decide_eq_true (visible_eq_nil_iff.2 fun c hc => ?_)
  exact visible_eq_nil_iff.1 h c (List.mem_flatten_of_mem hl hc)

section Paragraphs

variable {f : List Char → List (List Char)} {block : List (List Char)}

theorem blankLines_le_flatMap (h : ∀ line ∈ block, blankLines [line] ≤ blankLines (f line)) :
    blankLines block ≤ blankLines (block.flatMap f) := by
  induction block with
  | nil => exact Nat.le_refl 0
  | cons line rest ih =>
    rw [blankLines_cons, List.flatMap_cons, blankLines_append]
    exact Nat.add_le_add (h line List.mem_cons_self) (ih fun other ho => h other (List.mem_cons_of_mem line ho))

/-- If no line loses blank lines, their number is the same only if it is the same for each line. -/
theorem blankLines_flatMap_eq_iff (h : ∀ line ∈ block, blankLines [line] ≤ blankLines (f line)) :
    blankLines (block.flatMap f) = blankLines block ↔ ∀ line ∈ block, blankLines (f line) = blankLines [line] := by
  induction block with
  | nil => simp
  | cons line rest ih =>
    obtain ⟨hline, hrest⟩ := List.forall_mem_cons.1 h
    have hle := blankLines_le_flatMap hrest
    rw [blankLines_cons, List.flatMap_cons, blankLines_append, List.forall_mem_cons, ← ih hrest]
    omega

end Paragraphs

/-! ### The pen in the middle of a text -/

theorem splitAfter_ne_nil (separator c : Char) (rest : List Char) : splitAfter separator (c :: rest) ≠ [] := by
  rw [splitAfter]
  split
  · simp
  · split <;> simp

namespace Pen

section

variable (charWidth : Char → Nat) (wordWidth : List Char → Nat) (limit : Nat)

/-- The pen writes a text, from the start of a word on. -/
def write (pen : Pen) (text : List Char) : Pen :=
  (splitAfter ' ' text).foldl (Pen.putWord charWidth wordWidth limit) pen

/-- The pen goes on with a text in the middle of a word. -/
def resume (pen : Pen) (text : List Char) : Pen :=
  match splitAfter ' ' text with
  | [] => pen
  | word :: words =>
    words.foldl (Pen.putWord charWidth wordWidth limit) (word.foldl (Pen.put charWidth limit) pen)

end

@[simp] theorem resume_nil (pen : Pen) : pen.resume charWidth wordWidth limit [] = pen := rfl

theorem resume_space (pen : Pen) (rest : List Char) :
    pen.resume charWidth wordWidth limit (' ' :: rest) =
      (pen.put charWidth limit ' ').write charWidth wordWidth limit rest := rfl

theorem resume_cons_of_ne (pen : Pen) {c : Char} (hc : c ≠ ' ') (rest : List Char) :
    pen.resume charWidth wordWidth limit (c :: rest) =
      (pen.put charWidth limit c).resume charWidth wordWidth limit rest := by
  unfold resume
  rw [splitAfter, if_neg hc]
  cases splitAfter ' ' rest <;> rfl

/-- Before a word the pen may break the line, if anything is on it, and it does so if the line is full. -/
theorem write_cons (charWidth : Char → Nat) (wordWidth : List Char → Nat) (limit : Nat) (pen : Pen) (c : Char)
    (rest : List Char) :
    pen.write charWidth wordWidth limit (c :: rest) = pen.resume charWidth wordWidth limit (c :: rest) ∧
        (pen.used ≤ limit ∨ pen.line = []) ∨
      pen.write charWidth wordWidth limit (c :: rest) = pen.break.resume charWidth wordWidth limit (c :: rest) ∧
        pen.line ≠ [] := by
  unfold write resume
  cases hs : splitAfter ' ' (c :: rest) with
  | nil => exact absurd hs (splitAfter_ne_nil ' ' c rest)
  | cons word words =>
    rw [List.foldl_cons, putWord]
    split
    next hbreak => exact .inr ⟨rfl, hbreak.2⟩
    next hstay =>
      refine .inl ⟨rfl, ?_⟩
      by_cases hline : pen.line = []
      · exact .inr hline
      · have : ¬ pen.used + wordWidth (trimEnd word) > limit := fun hover => hstay ⟨hover, hline⟩
        exact .inl (by omega)

/-- At the start of a line there is nothing to break. -/
theorem write_eq_resume {pen : Pen} (h : pen.line = []) (text : List Char) :
    pen.write charWidth wordWidth limit text = pen.resume charWidth wordWidth limit text := by
  cases text with
  | nil => rfl
  | cons c rest =>
    rcases write_cons charWidth wordWidth limit pen c rest with ⟨hw, -⟩ | ⟨-, hline⟩
    · exact hw
    · exact absurd h hline

/-- The pen writes a text character by character. It may break the line after a space with more text behind it, and it
does so if the line is full. -/
theorem resume_cons (charWidth : Char → Nat) (wordWidth : List Char → Nat) (limit : Nat) (pen : Pen) (c : Char)
    (rest : List Char) :
    pen.resume charWidth wordWidth limit (c :: rest) =
          (pen.put charWidth limit c).resume charWidth wordWidth limit rest ∧
        (c = ' ' → rest ≠ [] → (pen.put charWidth limit c).used ≤ limit) ∨
      pen.resume charWidth wordWidth limit (c :: rest) =
          (pen.put charWidth limit c).break.resume charWidth wordWidth limit rest ∧
        c = ' ' ∧ rest ≠ [] := by
  by_cases hc : c = ' '
  · subst hc
    rw [resume_space]
    cases rest with
    | nil => exact .inl ⟨rfl, fun _ h => absurd rfl h⟩
    | cons d rest =>
      rcases write_cons charWidth wordWidth limit (pen.put charWidth limit ' ') d rest with ⟨hw, hroom⟩ | ⟨hw, -⟩
      · exact .inl ⟨hw, fun _ _ => hroom.resolve_right (by simp [put])⟩
      · exact .inr ⟨hw, rfl, by simp⟩
  · exact .inl ⟨resume_cons_of_ne pen hc rest, fun h => absurd h hc⟩

theorem Kept.resume {P : Pen → Prop} {pen : Pen} (h : Kept charWidth limit P) (hp : P pen)
    (wordWidth : List Char → Nat) (text : List Char) : P (pen.resume charWidth wordWidth limit text) := by
  unfold Pen.resume
  split
  · exact hp
  · exact h.foldl_putWord (h.foldl_put hp _) wordWidth _

theorem line_put_ne_nil (pen : Pen) (c : Char) : (pen.put charWidth limit c).line ≠ [] := by
  simp [put]

theorem line_resume_ne_nil {text : List Char} {pen : Pen} (h : pen.line ≠ [] ∨ text ≠ []) :
    (pen.resume charWidth wordWidth limit text).line ≠ [] := by
  induction text generalizing pen with
  | nil => exact h.resolve_right (· rfl)
  | cons c rest ih =>
    rcases resume_cons charWidth wordWidth limit pen c rest with ⟨hr, -⟩ | ⟨hr, -, hrest⟩
    · exact hr ▸ ih (.inl (line_put_ne_nil pen c))
    · exact hr ▸ ih (.inr hrest)

/-! ### Lines with something visible -/

/-- Something is visible on every line that the pen has ended, and on its own line if that has been begun. -/
structure NoBlank (pen : Pen) : Prop where
  done : ∀ line ∈ pen.done, visible line ≠ []
  line : pen.line ≠ [] → visible pen.line ≠ []

theorem start_noBlank : NoBlank start := ⟨by simp [start], fun h => absurd rfl h⟩

theorem noBlank_break_iff {pen : Pen} (h : pen.line ≠ []) : pen.break.NoBlank ↔ pen.NoBlank := by
  have htrim : visible (trimEnd pen.line) = visible pen.line := (DropsBlanks.trimEnd pen.line).visible
  constructor
  · intro hb
    refine ⟨fun line hl => hb.done line (List.mem_append_left _ hl), fun _ => ?_⟩
    exact htrim ▸ hb.done _ (List.mem_append_right _ (List.mem_singleton_self _))
  · intro hp
    refine ⟨fun line hl => ?_, fun hline => absurd rfl hline⟩
    rcases List.mem_append.1 hl with hl | hl
    · exact hp.done line hl
    · rw [List.mem_singleton.1 hl, htrim]
      exact hp.line h

theorem noBlank_push_iff {pen : Pen} {c : Char} {used : Nat} :
    NoBlank { pen with line := pen.line ++ [c], used } ↔
      (∀ line ∈ pen.done, visible line ≠ []) ∧ (isBlank c = true → visible pen.line ≠ []) := by
  have hline : visible (pen.line ++ [c]) ≠ [] ↔ (isBlank c = true → visible pen.line ≠ []) := by
    cases hc : isBlank c <;> simp [visible, hc]
  exact ⟨fun h => ⟨h.done, hline.1 (h.line (by simp))⟩, fun h => ⟨h.1, fun _ => hline.2 h.2⟩⟩

end Pen

/-! ### One space at a time -/

/-- A character may stand after another one if it is visible, or a space after a visible character. -/
def MayFollow (before c : Char) : Prop := isBlank c = true → c = ' ' ∧ isBlank before = false

instance : DecidableRel MayFollow := fun _ _ => inferInstanceAs (Decidable (_ → _))

/-- White space stands as single spaces behind visible characters, and not at the start. -/
def OneSpaced (paragraph : List Char) : Prop := (' ' :: paragraph).IsChain MayFollow

instance : DecidablePred OneSpaced := fun _ => inferInstanceAs (Decidable (List.IsChain _ _))

namespace Pen

theorem NoBlank.put {pen : Pen} (hp : pen.NoBlank) {c : Char} (hc : isBlank c = true → c = ' ' ∧ pen.line ≠ []) :
    (pen.put charWidth limit c).NoBlank := by
  unfold Pen.put
  split
  next hbreak =>
    obtain ⟨hspace, hline⟩ := not_or.1 hbreak.2
    exact noBlank_push_iff.2 ⟨((noBlank_break_iff hline).2 hp).done, fun hblank => absurd (hc hblank).1 hspace⟩
  · exact noBlank_push_iff.2 ⟨hp.done, fun hblank => hp.line (hc hblank).2⟩

theorem NoBlank.resume {text : List Char} {before : Char} {pen : Pen} (hp : pen.NoBlank)
    (h : (before :: text).IsChain MayFollow) (hline : pen.line = [] → isBlank before = true) :
    (pen.resume charWidth wordWidth limit text).NoBlank := by
  induction text generalizing before pen with
  | nil => exact hp
  | cons c rest ih =>
    obtain ⟨hc, hrest⟩ := List.isChain_cons_cons.1 h
    have hput : (pen.put charWidth limit c).NoBlank := by
      refine hp.put fun hblank => ⟨(hc hblank).1, fun hnil => ?_⟩
      exact Bool.false_ne_true ((hc hblank).2.symm.trans (hline hnil))
    have hnew : (pen.put charWidth limit c).line ≠ [] := line_put_ne_nil pen c
    rcases resume_cons charWidth wordWidth limit pen c rest with ⟨hr, -⟩ | ⟨hr, rfl, -⟩
    · exact hr ▸ ih hput hrest fun hnil => absurd hnil hnew
    · exact hr ▸ ih ((noBlank_break_iff hnew).2 hput) hrest fun _ => by decide

/-! ### One column -/

section Column

variable {pen : Pen}

theorem length_le_used_put (h : pen.line.length ≤ pen.used) {c : Char} (hc : 0 < charWidth c) :
    (pen.put charWidth limit c).line.length ≤ (pen.put charWidth limit c).used := by
  unfold Pen.put
  split
  · simpa [Pen.break] using Nat.succ_le_of_lt hc
  · simp only [List.length_append, List.length_singleton]
    omega

/-- In one column the step is exact: white space leaves no blank line only as a space on a line with more on it. -/
theorem noBlank_put_one_iff (h : pen.line.length ≤ pen.used) {c : Char} (hc : 0 < charWidth c) :
    (pen.put charWidth 1 c).NoBlank ↔ pen.NoBlank ∧ (isBlank c = true → c = ' ' ∧ pen.line ≠ []) := by
  refine ⟨fun hput => ?_, fun hp => hp.1.put hp.2⟩
  unfold Pen.put at hput
  split at hput
  next hbreak =>
    obtain ⟨-, hline⟩ := not_or.1 hbreak.2
    obtain ⟨hdone, hnew⟩ := noBlank_push_iff.1 hput
    exact ⟨(noBlank_break_iff hline).1 ⟨hdone, fun hnil => absurd rfl hnil⟩, fun hblank => absurd rfl (hnew hblank)⟩
  next hstay =>
    obtain ⟨hdone, hnew⟩ := noBlank_push_iff.1 hput
    by_cases hline : pen.line = []
    · exact ⟨⟨hdone, fun hne => absurd hline hne⟩, fun hblank => absurd (by rw [hline]; rfl) (hnew hblank)⟩
    · have hused := List.length_pos_iff.2 hline
      have hspace : c = ' ' := by
        by_contra hne
        exact hstay ⟨by omega, by simp [hne, hline]⟩
      subst hspace
      exact ⟨⟨hdone, fun _ => hnew (by decide)⟩, fun _ => ⟨rfl, hline⟩⟩

/-- A blank line stays, so the first step of a run without one leaves none. -/
theorem noBlank_put_of_resume {c : Char} {rest : List Char} (h : pen.line.length ≤ pen.used)
    (hpos : ∀ d ∈ c :: rest, 0 < charWidth d) (hr : (pen.resume charWidth wordWidth 1 (c :: rest)).NoBlank) :
    (pen.put charWidth 1 c).NoBlank := by
  induction rest generalizing pen c with
  | nil =>
    rcases resume_cons charWidth wordWidth 1 pen c [] with ⟨he, -⟩ | ⟨-, -, hnil⟩
    · rwa [he, resume_nil] at hr
    · exact absurd rfl hnil
  | cons d rest ih =>
    obtain ⟨hc, hrest⟩ := List.forall_mem_cons.1 hpos
    have hd : 0 < charWidth d := hrest d List.mem_cons_self
    rcases resume_cons charWidth wordWidth 1 pen c (d :: rest) with ⟨he, -⟩ | ⟨he, -⟩
    · have hlen : (pen.put charWidth 1 c).line.length ≤ (pen.put charWidth 1 c).used := length_le_used_put h hc
      exact ((noBlank_put_one_iff hlen hd).1 (ih hlen hrest (he ▸ hr))).1
    · have hlen : (pen.put charWidth 1 c).break.line.length ≤ (pen.put charWidth 1 c).break.used := Nat.le_refl 0
      exact (noBlank_break_iff (line_put_ne_nil pen c)).1
        ((noBlank_put_one_iff hlen hd).1 (ih hlen hrest (he ▸ hr))).1

/-- A space with something before it goes over the column. -/
theorem one_lt_used_put_space (h : pen.line.length ≤ pen.used) (hline : pen.line ≠ []) (hc : 0 < charWidth ' ') :
    1 < (pen.put charWidth 1 ' ').used := by
  have := List.length_pos_iff.2 hline
  simp only [Pen.put, true_or, not_true_eq_false, and_false, if_false]
  omega

theorem isChain_of_noBlank_resume {text : List Char} {before : Char} (h : pen.line.length ≤ pen.used)
    (hpos : ∀ c ∈ text, 0 < charWidth c) (hbefore : pen.line ≠ [] → isBlank before = false)
    (hr : (pen.resume charWidth wordWidth 1 text).NoBlank) : (before :: text).IsChain MayFollow := by
  induction text generalizing before pen with
  | nil => exact List.isChain_singleton before
  | cons c rest ih =>
    obtain ⟨hc, hrest⟩ := List.forall_mem_cons.1 hpos
    obtain ⟨-, hstep⟩ := (noBlank_put_one_iff h hc).1 (noBlank_put_of_resume h hpos hr)
    refine List.isChain_cons_cons.2 ⟨fun hblank => ⟨(hstep hblank).1, hbefore (hstep hblank).2⟩, ?_⟩
    rcases resume_cons charWidth wordWidth 1 pen c rest with ⟨he, hroom⟩ | ⟨he, -⟩
    · by_cases hnil : rest = []
      · exact hnil ▸ List.isChain_singleton c
      · refine ih (length_le_used_put h hc) hrest (fun _ => ?_) (he ▸ hr)
        -- the pen has not broken the line, so that this character is no space
        by_contra hblank
        obtain ⟨rfl, hline⟩ := hstep (Bool.not_eq_false _ ▸ hblank)
        exact Nat.not_lt.2 (hroom rfl hnil) (one_lt_used_put_space h hline hc)
    · exact ih (Nat.zero_le _) hrest (fun hline => absurd rfl hline) (he ▸ hr)

theorem done_ne_nil_kept : Kept charWidth limit fun pen => pen.done ≠ [] where
  newLine _ _ := by simp [Pen.break]
  push _ _ h _ := h

/-- On a line with something on it, at most one space can be written in one column without a break. -/
theorem eq_nil_or_space_of_done_eq_nil {text : List Char} (h : pen.line.length ≤ pen.used) (hline : pen.line ≠ [])
    (hpos : ∀ c ∈ text, 0 < charWidth c) (hd : (pen.resume charWidth wordWidth 1 text).done = []) :
    text = [] ∨ text = [' '] := by
  cases text with
  | nil => exact .inl rfl
  | cons c rest =>
    have hc : 0 < charWidth c := hpos c List.mem_cons_self
    rcases resume_cons charWidth wordWidth 1 pen c rest with ⟨he, hroom⟩ | ⟨he, -⟩
    · have hput : (pen.put charWidth 1 c).done = [] := by
        by_contra hne
        exact done_ne_nil_kept.resume hne wordWidth rest (he ▸ hd)
      have hspace : c = ' ' := by
        by_contra hne
        have hused := List.length_pos_iff.2 hline
        rw [Pen.put, if_pos ⟨by omega, by simp [hne, hline]⟩] at hput
        exact absurd hput (by simp [Pen.break])
      subst hspace
      by_cases hnil : rest = []
      · exact .inr (by rw [hnil])
      · exact absurd (one_lt_used_put_space h hline hc) (Nat.not_lt.2 (hroom rfl hnil))
    · exact absurd (he ▸ hd) (done_ne_nil_kept.resume (by simp [Pen.break]) wordWidth rest)

end Column

end Pen

/-! ### A paragraph -/

/-- A paragraph without white space other than single spaces behind visible characters, or one that is a single
character of white space and at most one space. -/
def Tidy (paragraph : List Char) : Prop :=
  OneSpaced paragraph ∨ ∃ c, isBlank c = true ∧ (paragraph = [c] ∨ paragraph = [c, ' '])

section Paragraph

variable {paragraph : List Char}

theorem wrapParagraph_eq_resume (charWidth : Char → Nat) (wordWidth : List Char → Nat) (limit : Nat)
    (paragraph : List Char) :
    wrapParagraph charWidth wordWidth limit paragraph =
      (Pen.start.resume charWidth wordWidth limit paragraph).break.done :=
  congrArg (fun pen => (Pen.break pen).done) (Pen.write_eq_resume rfl paragraph)

/-- All lines of a blank paragraph are blank. -/
theorem blankLines_wrapParagraph_of_blank (h : visible paragraph = []) :
    blankLines (wrapParagraph charWidth wordWidth limit paragraph) =
      (Pen.start.resume charWidth wordWidth limit paragraph).done.length + 1 := by
  rw [blankLines_eq_length ((dropsBlanks_wrapParagraph charWidth wordWidth limit paragraph).visible.trans h),
    wrapParagraph_eq_resume, Pen.break, List.length_append, List.length_singleton]

theorem blankLines_wrapParagraph_eq_zero_iff (h : paragraph ≠ []) :
    blankLines (wrapParagraph charWidth wordWidth limit paragraph) = 0 ↔
      (Pen.start.resume charWidth wordWidth limit paragraph).NoBlank := by
  rw [blankLines_eq_zero_iff, wrapParagraph_eq_resume, ← Pen.noBlank_break_iff (Pen.line_resume_ne_nil (.inr h))]
  exact ⟨fun hd => ⟨hd, fun hline => absurd rfl hline⟩, fun hb => hb.done⟩

theorem blankLines_le_wrapParagraph (charWidth : Char → Nat) (wordWidth : List Char → Nat) (limit : Nat)
    (paragraph : List Char) :
    blankLines [paragraph] ≤ blankLines (wrapParagraph charWidth wordWidth limit paragraph) := by
  by_cases h : visible paragraph = []
  · rw [blankLines_wrapParagraph_of_blank h]
    simp [blankLines, h]
  · simp [blankLines, h]

theorem blankLines_wrapParagraph_of_oneSpaced (h : OneSpaced paragraph) :
    blankLines (wrapParagraph charWidth wordWidth limit paragraph) = blankLines [paragraph] := by
  cases paragraph with
  | nil => rfl
  | cons c rest =>
    have hc : isBlank c = false := by
      by_contra hblank
      exact absurd ((List.isChain_cons_cons.1 h).1 (Bool.not_eq_false _ ▸ hblank)).2 (by decide)
    have hblank : blankLines [c :: rest] = 0 := by simp [blankLines, visible, hc]
    rw [hblank, blankLines_wrapParagraph_eq_zero_iff (List.cons_ne_nil c rest)]
    exact Pen.start_noBlank.resume h fun _ => by decide

/-- A tidy paragraph keeps its number of blank lines in every width. -/
theorem blankLines_wrapParagraph_of_tidy (hspace : charWidth ' ' = 1) (hword : wordWidth [] = 0) (hlimit : 1 ≤ limit)
    (h : Tidy paragraph) :
    blankLines (wrapParagraph charWidth wordWidth limit paragraph) = blankLines [paragraph] := by
  rcases h with h | ⟨c, hc, hshort⟩
  · exact blankLines_wrapParagraph_of_oneSpaced h
  · have hblank : visible paragraph = [] := by
      rcases hshort with rfl | rfl
      · simp [visible, hc]
      · simp [visible, hc, show isBlank ' ' = true by decide]
    have hdone : (Pen.start.resume charWidth wordWidth limit paragraph).done = [] := by
      rcases hshort with rfl | rfl <;> by_cases hs : c = ' ' <;>
        simp [Pen.resume, splitAfter, Pen.put, Pen.putWord, Pen.start, hs, hspace, Nat.ne_of_gt hlimit,
          show trimEnd [' '] = [] by decide, hword]
    rw [blankLines_wrapParagraph_of_blank hblank, hdone]
    simp [blankLines, hblank]

/-- In one column a paragraph that keeps its number of blank lines is tidy. -/
theorem tidy_of_blankLines_wrapParagraph (hpos : ∀ c ∈ paragraph, 0 < charWidth c)
    (h : blankLines (wrapParagraph charWidth wordWidth 1 paragraph) = blankLines [paragraph]) : Tidy paragraph := by
  have hstart : Pen.start.line.length ≤ Pen.start.used := Nat.le_refl 0
  cases paragraph with
  | nil => exact .inl (List.isChain_singleton ' ')
  | cons c rest =>
    by_cases hblank : visible (c :: rest) = []
    · have hdone : (Pen.start.resume charWidth wordWidth 1 (c :: rest)).done = [] := by
        rw [blankLines_wrapParagraph_of_blank hblank] at h
        simpa [blankLines, hblank] using h
      obtain ⟨hc, hrest⟩ := List.forall_mem_cons.1 hpos
      rcases Pen.resume_cons charWidth wordWidth 1 Pen.start c rest with ⟨he, -⟩ | ⟨he, -⟩
      · have hshort := Pen.eq_nil_or_space_of_done_eq_nil (Pen.length_le_used_put hstart hc)
          (Pen.line_put_ne_nil Pen.start c) hrest (he ▸ hdone)
        exact .inr ⟨c, visible_eq_nil_iff.1 hblank c List.mem_cons_self,
          hshort.imp (congrArg (c :: ·)) (congrArg (c :: ·))⟩
      · exact absurd (he ▸ hdone) (Pen.done_ne_nil_kept.resume (by simp [Pen.break]) wordWidth rest)
    · have hzero : blankLines (wrapParagraph charWidth wordWidth 1 (c :: rest)) = 0 := by
        rw [h]
        simp [blankLines, hblank]
      exact .inl (Pen.isChain_of_noBlank_resume hstart hpos (fun hline => absurd rfl hline)
        ((blankLines_wrapParagraph_eq_zero_iff (List.cons_ne_nil c rest)).1 hzero))

end Paragraph

/-! ### A text -/

/-- No width loses a blank paragraph, and none adds a blank line if all white space is single spaces behind visible
characters. If every character takes a column, and a space only one, then the texts to which no width adds a blank line
are those with tidy paragraphs only. -/
theorem blank_lines_of_wrapped (charWidth : Char → Nat) (wordWidth : List Char → Nat) (text : List Char) :
    (∀ limit, blankLines (lines text) ≤ blankLines (wrap charWidth wordWidth limit text)) ∧
      ((∀ paragraph ∈ lines text, OneSpaced paragraph) →
        ∀ limit, blankLines (wrap charWidth wordWidth limit text) = blankLines (lines text)) ∧
      (charWidth ' ' = 1 → wordWidth [] = 0 → (∀ paragraph ∈ lines text, ∀ c ∈ paragraph, 0 < charWidth c) →
        ((∀ limit, blankLines (wrap charWidth wordWidth limit text) = blankLines (lines text)) ↔
          ∀ paragraph ∈ lines text, Tidy paragraph)) := by
  have hle (limit : Nat) : ∀ paragraph ∈ lines text,
      blankLines [paragraph] ≤ blankLines (wrapParagraph charWidth wordWidth (max limit 1) paragraph) :=
    fun paragraph _ => blankLines_le_wrapParagraph charWidth wordWidth (max limit 1) paragraph
  refine ⟨fun limit => blankLines_le_flatMap (hle limit), fun h limit => ?_, fun hspace hword hpos => ?_⟩
  · refine (blankLines_flatMap_eq_iff (hle limit)).2 fun paragraph hp => ?_
    exact blankLines_wrapParagraph_of_oneSpaced (h paragraph hp)
  · constructor
    · intro h paragraph hp
      have hone := (blankLines_flatMap_eq_iff (hle 1)).1 (h 1) paragraph hp
      exact tidy_of_blankLines_wrapParagraph (hpos paragraph hp) hone
    · intro h limit
      refine (blankLines_flatMap_eq_iff (hle limit)).2 fun paragraph hp => ?_
      exact blankLines_wrapParagraph_of_tidy hspace hword (Nat.le_max_right limit 1) (h paragraph hp)

theorem forall_pos_of_all {block : List (List Char)}
    (h : (block.all fun line => line.all fun c => decide (0 < charWidth c)) = true) :
    ∀ line ∈ block, ∀ c ∈ line, 0 < charWidth c := by
  simpa only [List.all_eq_true, decide_eq_true_eq] using h

/-- A space at the end of a paragraph and a paragraph of two spaces add no blank line in any width; a space at the start
of a paragraph does in some. -/
theorem tidy_greeting_keeps_blank_lines :
    let tidy := "hello world \n  \n!".toList
    let indented := "hello world\n !".toList
    (∀ limit, blankLines (wrap charColumns width limit tidy) = 1) ∧
      ¬ ∀ limit, blankLines (wrap charColumns width limit indented) = 0 := by
  intro tidy indented
  constructor
  · have hlines : lines tidy = ["hello world ".toList, [' ', ' '], ['!']] := by decide +kernel
    have hiff := (blank_lines_of_wrapped charColumns width tidy).2.2 (by decide +kernel) (by decide +kernel)
      (forall_pos_of_all (by decide +kernel))
    refine fun limit => (hiff.2 ?_ limit).trans (by rw [hlines]; decide +kernel)
    rw [hlines]
    simp only [List.forall_mem_cons]
    exact ⟨.inl (by decide +kernel), .inr ⟨' ', by decide, .inr rfl⟩, .inl (by decide +kernel), by simp⟩
  · have hlines : lines indented = ["hello world".toList, [' ', '!']] := by decide +kernel
    have hiff := (blank_lines_of_wrapped charColumns width indented).2.2 (by decide +kernel) (by decide +kernel)
      (forall_pos_of_all (by decide +kernel))
    have hzero : blankLines (lines indented) = 0 := by rw [hlines]; decide +kernel
    intro h
    rcases hiff.1 (fun limit => (h limit).trans hzero.symm) [' ', '!'] (by simp [hlines]) with hone | ⟨c, -, hc⟩
    · exact absurd hone (by decide +kernel)
    · simp at hc

/-- Two spaces do not disappear at a break: the second one leaves a blank line. -/
theorem two_spaces_leave_blank_line :
    wrap charColumns width 5 "alpha  gamma".toList = ["alpha".toList, [], "gamma".toList] ∧
      ¬ ∀ limit text, blankLines (wrap charColumns width limit text) = blankLines (lines text) := by
  have hw : wrap charColumns width 5 "alpha  gamma".toList = ["alpha".toList, [], "gamma".toList] := by decide +kernel
  refine ⟨hw, fun h => absurd (h 5 "alpha  gamma".toList) ?_⟩
  rw [hw]
  decide +kernel

end TableDesk.Text
