import TableDesk.Proofs.Screen.Row
import TableDesk.Screen.Frame

/-!
Where drawing leaves the symbols on a canvas as they are. A style never changes a symbol, a line of text stays on
its row, a paragraph on its rows, and a frame leaves what it surrounds alone.
-/

namespace TableDesk.Screen

theorem Rect.Inside.contains {inner outer : Rect} (h : inner.Inside outer) {x y : Nat}
    (hc : inner.contains x y = true) : outer.contains x y = true := by
  obtain ⟨hleft, hright, htop, hbottom⟩ := h
  rw [Rect.contains_iff] at hc ⊢
  omega

namespace Canvas

/-- The symbols at the given positions are the same on both canvases. -/
def Keeps (P : Nat → Nat → Prop) (before after : Canvas) : Prop :=
  ∀ x y, P x y → after.symbol? x y = before.symbol? x y

variable {P : Nat → Nat → Prop}

theorem Keeps.refl (canvas : Canvas) : Keeps P canvas canvas := fun _ _ _ => rfl

theorem Keeps.trans {first second third : Canvas} (h : Keeps P first second) (h' : Keeps P second third) :
    Keeps P first third :=
  fun x y hp => (h' x y hp).trans (h x y hp)

theorem Keeps.mono {Q : Nat → Nat → Prop} {before after : Canvas} (h : Keeps P before after)
    (hq : ∀ x y, Q x y → P x y) : Keeps Q before after :=
  fun x y hp => h x y (hq x y hp)

theorem keeps_modify {x y : Nat} (h : ¬P x y) (f : Cell → Cell) (canvas : Canvas) :
    Keeps P canvas (canvas.modify x y f) := by
  intro x' y' hp
  have hne : ¬(x = x' ∧ y = y') := by
    rintro ⟨rfl, rfl⟩
    exact h hp
  rw [symbol?, cell?_modify, if_neg hne, symbol?]

theorem keeps_modifyRow {y : Nat} (h : ∀ x, ¬P x y) (x n : Nat) (f : Cell → Cell) (canvas : Canvas) :
    Keeps P canvas (modifyRow x y f n canvas) := by
  intro x' y' hp
  have hne : ¬(y = y' ∧ x ≤ x' ∧ x' < x + n) := by
    rintro ⟨rfl, -⟩
    exact h x' hp
  rw [symbol?, cell?_modifyRow, if_neg hne, symbol?]

theorem keeps_modifyRect {area : Rect} (h : ∀ x y, area.contains x y = true → ¬P x y) (f : Cell → Cell)
    (canvas : Canvas) : Keeps P canvas (canvas.modifyRect area f) := by
  intro x y hp
  rw [symbol?, cell?_modifyRect, if_neg fun hc => h x y hc hp, symbol?]

theorem keeps_restyle (canvas : Canvas) (area : Rect) (style : Style) : Keeps P canvas (canvas.restyle area style) := by
  intro x y _
  rw [symbol?, restyle, cell?_modifyRect, symbol?]
  split
  · rw [Option.map_map]
    rfl
  · rfl

/-- An empty canvas has a cell at every position of its screen. -/
theorem isSome_cell?_blank {width height x y : Nat} (h : Rect.contains ⟨0, 0, width, height⟩ x y = true) :
    ((blank width height).cell? x y).isSome := by
  obtain ⟨⟨-, hx⟩, -, hy⟩ := Rect.contains_iff.1 h
  simp only [Rect.right, Rect.bottom, Nat.zero_add] at hx hy
  simp [cell?, blank, hx, hy]

theorem blankAt_blank {width height y x n : Nat} (hy : y < height) (hx : x + n ≤ width) :
    (blank width height).BlankAt y x n := by
  intro i _ hlt
  have hi : i < width := by omega
  simp [symbol?, cell?, blank, hi, hy, Cell.blank]

theorem symbol?_clear {canvas : Canvas} {area : Rect} {x y : Nat} (h : area.contains x y = true)
    (hc : (canvas.cell? x y).isSome) : (canvas.clear area).symbol? x y = some [' '] := by
  obtain ⟨cell, hcell⟩ := Option.isSome_iff_exists.1 hc
  rw [symbol?, clear, cell?_modifyRect, if_pos h, hcell]
  rfl

end Canvas

open Canvas

/-! ### One row -/

def OffRow (row : Nat) (_x y : Nat) : Prop := y ≠ row

theorem not_offRow (row x : Nat) : ¬OffRow row x row := fun h => h rfl

namespace Span

theorem drawSymbols_keeps (left right y : Nat) (symbols : List Symbol) (first : Bool) (x : Nat) (canvas : Canvas) :
    Keeps (OffRow y) canvas (drawSymbols left right y symbols first x canvas) := by
  induction symbols generalizing first x canvas with
  | nil => exact .refl canvas
  | cons s rest ih =>
    rw [drawSymbols]
    split
    · exact .refl canvas
    · refine .trans ?_ (ih false _ _)
      refine .trans ?_ (keeps_modifyRow (not_offRow y) _ _ _ _)
      repeat' split
      all_goals exact keeps_modify (not_offRow y _) _ canvas

theorem draw_keeps (span : Span) (area : Rect) (canvas : Canvas) :
    Keeps (OffRow area.y) canvas (span.draw area canvas) := by
  unfold draw
  split
  · exact .refl canvas
  · exact drawSymbols_keeps _ _ _ _ _ _ canvas

end Span

namespace StyledLine

theorem drawSpans_keeps (spans : List Span) (area : Rect) (canvas : Canvas) :
    Keeps (OffRow area.y) canvas (drawSpans spans area canvas) := by
  induction spans generalizing area canvas with
  | nil => exact .refl canvas
  | cons span rest ih =>
    rw [drawSpans]
    split
    · exact ih area canvas
    · split
      · exact .refl canvas
      · exact (span.draw_keeps area canvas).trans (ih (area.indent span.width) _)

theorem draw_keeps (line : StyledLine) (area : Rect) (canvas : Canvas) :
    Keeps (OffRow area.y) canvas (line.draw area canvas) := by
  unfold draw
  split
  · exact .refl canvas
  · exact (keeps_restyle canvas _ line.style).trans (drawSpans_keeps line.spans { area with height := 1 } _)

end StyledLine

/-! ### Frames -/

namespace Frame

/-- Neither on the border of an area nor outside of it. -/
def Within (area : Rect) (x y : Nat) : Prop :=
  (area.x < x ∧ x + 1 < area.right) ∧ area.y < y ∧ y + 1 < area.bottom

theorem Within.contains {area : Rect} {x y : Nat} (h : Within area x y) : area.contains x y = true := by
  unfold Within at h
  rw [Rect.contains_iff]
  omega

theorem modifyRect_side_keeps (area side : Rect)
    (h : (side.x = area.x ∨ side.x = area.right - 1) ∧ side.width = 1 ∨
      (side.y = area.y ∨ side.y = area.bottom - 1) ∧ side.height = 1)
    (f : Cell → Cell) (canvas : Canvas) : Keeps (Within area) canvas (canvas.modifyRect side f) := by
  refine keeps_modifyRect (fun x y hc hw => ?_) f canvas
  have := Rect.contains_iff.1 hc
  unfold Within at hw
  simp only [Rect.right, Rect.bottom] at *
  omega

theorem not_within_of_corner {area : Rect} {x : Nat} (h : x = area.x ∨ x = area.right - 1) (y : Nat) :
    ¬Within area x y := by
  unfold Within
  omega

theorem drawBorder_keeps (style : Style) (area : Rect) (canvas : Canvas) :
    Keeps (Within area) canvas (drawBorder style area canvas) := by
  unfold drawBorder
  refine .trans ?_ (keeps_modify (not_within_of_corner (.inl rfl) _) _ _)
  refine .trans ?_ (keeps_modify (not_within_of_corner (.inl rfl) _) _ _)
  refine .trans ?_ (keeps_modify (not_within_of_corner (.inr rfl) _) _ _)
  refine .trans ?_ (keeps_modify (not_within_of_corner (.inr rfl) _) _ _)
  refine .trans ?_
    (modifyRect_side_keeps area { area with y := area.bottom - 1, height := 1 } (.inr ⟨.inr rfl, rfl⟩) _ _)
  refine .trans ?_
    (modifyRect_side_keeps area { area with x := area.right - 1, width := 1 } (.inl ⟨.inr rfl, rfl⟩) _ _)
  refine .trans ?_ (modifyRect_side_keeps area { area with height := 1 } (.inr ⟨.inl rfl, rfl⟩) _ _)
  exact modifyRect_side_keeps area { area with width := 1 } (.inl ⟨.inl rfl, rfl⟩) _ canvas

theorem drawTitle_keeps (frame : Frame) (area : Rect) (canvas : Canvas) :
    Keeps (OffRow area.y) canvas (frame.drawTitle area canvas) := by
  unfold drawTitle
  split
  · exact .refl canvas
  · exact (keeps_restyle canvas _ frame.titleStyle).trans (frame.title.draw_keeps (frame.titleArea area) _)

/-- A frame leaves what it surrounds alone. -/
theorem draw_keeps (frame : Frame) (area : Rect) (canvas : Canvas) :
    Keeps (Within area) canvas (frame.draw area canvas) := by
  unfold draw
  split
  · exact .refl canvas
  · refine (keeps_restyle canvas area frame.style).trans ((drawBorder_keeps frame.borderStyle area _).trans ?_)
    exact (frame.drawTitle_keeps area _).mono fun x y hw => Nat.ne_of_gt hw.2.1

end Frame

/-! ### Paragraphs -/

namespace Paragraph

theorem drawSymbols_keeps (y : Nat) (symbols : List Symbol) (x : Nat) (canvas : Canvas) :
    Keeps (OffRow y) canvas (drawSymbols y symbols x canvas) := by
  intro x' y' hp
  rw [symbol?, cell?_drawSymbols (.inr hp), symbol?]

theorem drawLines_keeps (alignment : Alignment) (x width y rows : Nat) (lines : List StyledLine) (canvas : Canvas) :
    Keeps (fun _ y' => y' < y ∨ y + rows ≤ y') canvas (drawLines alignment x width y rows lines canvas) := by
  induction lines generalizing y rows canvas with
  | nil =>
    rw [drawLines]
    exact .refl canvas
  | cons line rest ih =>
    cases rows with
    | zero => exact .refl canvas
    | succ rows =>
      rw [drawLines]
      refine ((drawSymbols_keeps y _ _ canvas).mono fun x' y' hp => ?_).trans ((ih (y + 1) rows _).mono ?_)
      · show y' ≠ y
        omega
      · intro x' y' hp
        omega

/-- A paragraph stays on its rows. -/
theorem draw_keeps (p : Paragraph) (area : Rect) (canvas : Canvas) :
    Keeps (fun _ y => y < area.y ∨ area.bottom ≤ y) canvas (p.draw area canvas) := by
  unfold draw
  refine (keeps_restyle canvas area p.style).trans ?_
  dsimp only
  split
  · exact .refl _
  · exact drawLines_keeps p.alignment area.x area.width area.y area.height p.lines _

/-- A single line drawn on blank cells can be read up to the symbol that does not fit. -/
theorem exists_rowText_draw {p : Paragraph} {line : StyledLine} (hl : p.lines = [line]) (area : Rect)
    (hwidth : area.width ≠ 0) (hheight : area.height ≠ 0) {canvas : Canvas}
    (hb : canvas.BlankAt area.y area.x area.width) :
    ∃ left right, rowText ((p.draw area canvas).stretch area.y area.x area.width) =
      List.replicate left ' ' ++ shownSymbols (cut area.width 0 line.symbols) ++ List.replicate right ' ' := by
  have hempty : area.isEmpty = false := by simp [Rect.isEmpty, hwidth, hheight]
  obtain ⟨rows, hrows⟩ := Nat.exists_eq_succ_of_ne_zero hheight
  unfold draw
  dsimp only
  rw [if_neg (by simp [hempty]), hl, hrows]
  refine exists_rowText_drawLines p.alignment rows line fun i hi hlt => ?_
  have hsame := keeps_restyle (P := fun _ _ => True) canvas area p.style i area.y trivial
  exact hsame.trans (hb i hi hlt)

end Paragraph

end TableDesk.Screen
