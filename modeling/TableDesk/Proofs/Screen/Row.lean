import TableDesk.Screen.Paragraph
import TableDesk.Screen.Row

/-!
What can be read in a part of a row. Symbols that are drawn on blank cells can be read one after the other, each
over the cells that it hides, and blanks behind them.
-/

namespace TableDesk.Screen

/-! ### Text behind hidden cells -/

/-- The text that a row shows if its first cells are hidden. -/
def textFrom (hidden : Nat) (row : List Cell) : List Char := (visibleFrom hidden row).2.flatMap (·.1.symbol)

theorem rowText_eq_textFrom (row : List Cell) : rowText row = textFrom 0 row := rfl

@[simp] theorem textFrom_nil (hidden : Nat) : textFrom hidden [] = [] := by
  cases hidden <;> rfl

@[simp] theorem textFrom_zero_cons (cell : Cell) (rest : List Cell) :
    textFrom 0 (cell :: rest) = cell.symbol ++ textFrom (Text.width cell.symbol - 1) rest := rfl

@[simp] theorem textFrom_succ_cons (hidden : Nat) (cell : Cell) (rest : List Cell) :
    textFrom (hidden + 1) (cell :: rest) = textFrom hidden rest := rfl

/-! ### Parts of rows -/

namespace Canvas

def symbol? (canvas : Canvas) (x y : Nat) : Option (List Char) := (canvas.cell? x y).map (·.symbol)

/-- Some cells of the row `y`, from the column `x` on. -/
def stretch (canvas : Canvas) (y : Nat) : (x n : Nat) → List Cell
  | _, 0 => []
  | x, n + 1 => (canvas.cell? x y).toList ++ stretch canvas y (x + 1) n

/-- Nothing is to be seen on some cells of the row `y`, from the column `x` on. -/
def BlankAt (canvas : Canvas) (y x n : Nat) : Prop := ∀ i, x ≤ i → i < x + n → canvas.symbol? i y = some [' ']

variable {canvas : Canvas} {x y : Nat}

theorem exists_cell_of_symbol? {symbol : List Char} (h : canvas.symbol? x y = some symbol) :
    ∃ cell, canvas.cell? x y = some cell ∧ cell.symbol = symbol := by
  simpa [symbol?] using h

theorem stretch_succ {cell : Cell} (h : canvas.cell? x y = some cell) (n : Nat) :
    canvas.stretch y x (n + 1) = cell :: canvas.stretch y (x + 1) n := by
  simp [stretch, h]

namespace BlankAt

theorem mono {n x' n' : Nat} (h : canvas.BlankAt y x n) (hx : x ≤ x') (hn : x' + n' ≤ x + n) :
    canvas.BlankAt y x' n' :=
  fun i hi hlt => h i (by omega) (by omega)

theorem exists_cell {n : Nat} (h : canvas.BlankAt y x (n + 1)) :
    ∃ cell, canvas.cell? x y = some cell ∧ cell.symbol = [' '] :=
  exists_cell_of_symbol? (h x (Nat.le_refl x) (by omega))

/-- A change of the first cell leaves the others blank. -/
theorem modify {n : Nat} (h : canvas.BlankAt y x (n + 1)) (f : Cell → Cell) :
    (canvas.modify x y f).BlankAt y (x + 1) n := by
  intro i hi hlt
  rw [symbol?, cell?_modify, if_neg (by omega)]
  exact h i (by omega) (by omega)

end BlankAt

/-- Hidden cells show nothing. -/
theorem textFrom_stretch_hidden (hidden n : Nat)
    (h : ∀ i, x ≤ i → i < x + hidden → (canvas.symbol? i y).isSome) :
    textFrom hidden (canvas.stretch y x (hidden + n)) = textFrom 0 (canvas.stretch y (x + hidden) n) := by
  induction hidden generalizing x with
  | zero => rw [Nat.zero_add, Nat.add_zero]
  | succ hidden ih =>
    obtain ⟨symbol, hs⟩ := Option.isSome_iff_exists.1 (h x (Nat.le_refl x) (by omega))
    obtain ⟨cell, hc, -⟩ := exists_cell_of_symbol? hs
    have hrest := ih (x := x + 1) fun i hi hlt => h i (by omega) (by omega)
    rw [Nat.add_right_comm hidden 1 n, stretch_succ hc, textFrom_succ_cons, hrest, Nat.add_right_comm x 1 hidden]
    rfl

theorem textFrom_stretch_blank (k n : Nat) (h : canvas.BlankAt y x k) :
    textFrom 0 (canvas.stretch y x (k + n)) =
      List.replicate k ' ' ++ textFrom 0 (canvas.stretch y (x + k) n) := by
  induction k generalizing x with
  | zero => rw [Nat.zero_add, Nat.add_zero, List.replicate_zero, List.nil_append]
  | succ k ih =>
    obtain ⟨cell, hc, hs⟩ := h.exists_cell
    have hrest := ih (h.mono (Nat.le_succ x) (by omega))
    have hone : Text.width [' '] = 1 := by decide
    rw [Nat.add_right_comm k 1 n, stretch_succ hc, textFrom_zero_cons, hs, hone, Nat.sub_self, hrest,
      List.replicate_succ, Nat.add_right_comm x 1 k]
    rfl

end Canvas

/-! ### Symbols on blank cells -/

/-- What is seen of symbols: those without a width are not drawn. -/
def shownSymbols (symbols : List Symbol) : List Char :=
  (symbols.filter (Text.width ·.chars ≠ 0)).flatMap (·.chars)

theorem shownSymbols_cons_of_eq_zero {s : Symbol} (rest : List Symbol) (h : Text.width s.chars = 0) :
    shownSymbols (s :: rest) = shownSymbols rest := by
  simp [shownSymbols, h]

theorem shownSymbols_cons_of_ne_zero {s : Symbol} (rest : List Symbol) (h : Text.width s.chars ≠ 0) :
    shownSymbols (s :: rest) = s.chars ++ shownSymbols rest := by
  simp [shownSymbols, h]

namespace Paragraph

theorem widthOf_cons (s : Symbol) (rest : List Symbol) : widthOf (s :: rest) = Text.width s.chars + widthOf rest := rfl

theorem drawSymbols_cons_of_eq_zero (y x : Nat) (canvas : Canvas) {s : Symbol} (rest : List Symbol)
    (h : Text.width s.chars = 0) : drawSymbols y (s :: rest) x canvas = drawSymbols y rest x canvas := by
  rw [drawSymbols, if_pos h]

theorem drawSymbols_cons_of_ne_zero (y x : Nat) (canvas : Canvas) {s : Symbol} (rest : List Symbol)
    (h : Text.width s.chars ≠ 0) :
    drawSymbols y (s :: rest) x canvas =
      drawSymbols y rest (x + Text.width s.chars) (canvas.modify x y (Cell.write s.chars s.style)) := by
  rw [drawSymbols, if_neg h]

/-- Drawing from a column on leaves other rows and the columns before it as they are. -/
theorem cell?_drawSymbols {x y x' y' : Nat} (h : x' < x ∨ y' ≠ y) (symbols : List Symbol) (canvas : Canvas) :
    (drawSymbols y symbols x canvas).cell? x' y' = canvas.cell? x' y' := by
  induction symbols generalizing x canvas with
  | nil => rfl
  | cons s rest ih =>
    by_cases hw : Text.width s.chars = 0
    · rw [drawSymbols_cons_of_eq_zero y x canvas rest hw, ih h]
    · rw [drawSymbols_cons_of_ne_zero y x canvas rest hw, ih (by omega), Canvas.cell?_modify, if_neg (by omega)]

theorem isSome_symbol?_drawSymbols (y x' y' : Nat) (symbols : List Symbol) (x : Nat) (canvas : Canvas) :
    ((drawSymbols y symbols x canvas).symbol? x' y').isSome = (canvas.symbol? x' y').isSome := by
  induction symbols generalizing x canvas with
  | nil => rfl
  | cons s rest ih =>
    by_cases hw : Text.width s.chars = 0
    · rw [drawSymbols_cons_of_eq_zero y x canvas rest hw, ih]
    · rw [drawSymbols_cons_of_ne_zero y x canvas rest hw, ih, Canvas.symbol?, Canvas.cell?_modify]
      split <;> simp [Canvas.symbol?]

/-- Symbols drawn on blank cells can be read one after the other. -/
theorem textFrom_drawSymbols {canvas : Canvas} {x y n : Nat} {symbols : List Symbol} (hb : canvas.BlankAt y x n)
    (h : widthOf symbols ≤ n) :
    textFrom 0 ((drawSymbols y symbols x canvas).stretch y x n) =
      shownSymbols symbols ++ List.replicate (n - widthOf symbols) ' ' := by
  induction symbols generalizing x n canvas with
  | nil => simpa [shownSymbols, widthOf, Canvas.stretch, drawSymbols] using Canvas.textFrom_stretch_blank n 0 hb
  | cons s rest ih =>
    rw [widthOf_cons] at h ⊢
    cases hw : Text.width s.chars with
    | zero =>
      rw [hw, Nat.zero_add] at h
      rw [drawSymbols_cons_of_eq_zero y x canvas rest hw, ih hb h, shownSymbols_cons_of_eq_zero rest hw, Nat.zero_add]
    | succ w =>
      have hne : Text.width s.chars ≠ 0 := by omega
      obtain ⟨m, rfl⟩ : ∃ m, n = w + m + 1 := ⟨n - (w + 1), by omega⟩
      obtain ⟨cell, hc, -⟩ := hb.exists_cell
      have hbehind := hb.modify (Cell.write s.chars s.style)
      rw [drawSymbols_cons_of_ne_zero y x canvas rest hne, hw, shownSymbols_cons_of_ne_zero rest hne]
      -- the first cell holds the symbol, the next `w` ones are behind it, and the rest is drawn further on
      have hfirst : (drawSymbols y rest (x + (w + 1)) (canvas.modify x y (Cell.write s.chars s.style))).cell? x y =
          some (cell.write s.chars s.style) := by
        rw [cell?_drawSymbols (.inl (by omega)), Canvas.cell?_modify, if_pos ⟨rfl, rfl⟩, hc]
        rfl
      have hhidden : ∀ i, x + 1 ≤ i → i < x + 1 + w →
          ((drawSymbols y rest (x + (w + 1)) (canvas.modify x y (Cell.write s.chars s.style))).symbol? i y).isSome := by
        intro i hi hlt
        rw [isSome_symbol?_drawSymbols, hbehind i hi (by omega)]
        rfl
      have hfurther : (canvas.modify x y (Cell.write s.chars s.style)).BlankAt y (x + (w + 1)) m :=
        hbehind.mono (by omega) (by omega)
      have hrest := ih hfurther (by omega)
      have hsymbol : (cell.write s.chars s.style).symbol = s.chars := rfl
      rw [Canvas.stretch_succ hfirst, textFrom_zero_cons, hsymbol, hw, Nat.add_sub_cancel,
        Canvas.textFrom_stretch_hidden w m hhidden, Nat.add_assoc x 1 w, Nat.add_comm 1 w, hrest, List.append_assoc]
      congr 3
      omega

/-! ### Lines cut off at a side -/

theorem widthOf_cut_le {limit used : Nat} (h : used ≤ limit) (symbols : List Symbol) :
    used + widthOf (cut limit used symbols) ≤ limit := by
  induction symbols generalizing used with
  | nil => exact h
  | cons s rest ih =>
    rw [cut]
    split
    · exact ih h
    · split
      · exact h
      next hfits =>
        rw [widthOf_cons, ← Nat.add_assoc]
        exact ih (Nat.not_lt.1 hfits)

theorem cut_eq_self {limit used : Nat} {symbols : List Symbol} (h : used + widthOf symbols ≤ limit) :
    cut limit used symbols = symbols := by
  induction symbols generalizing used with
  | nil => rfl
  | cons s rest ih =>
    rw [widthOf_cons] at h
    rw [cut, if_neg (by omega), if_neg (by omega), ih (by omega)]

theorem offset_add_le (alignment : Alignment) {lineWidth areaWidth : Nat} (h : lineWidth ≤ areaWidth) :
    offset alignment lineWidth areaWidth + lineWidth ≤ areaWidth := by
  cases alignment with
  | left => rwa [offset, Nat.zero_add]
  | center =>
    rw [offset]
    omega

/-- A single line on blank cells can be read up to the symbol that does not fit. -/
theorem exists_rowText_drawLines {canvas : Canvas} {x y width : Nat} (alignment : Alignment) (rows : Nat)
    (line : StyledLine) (hb : canvas.BlankAt y x width) :
    ∃ left right,
      rowText ((drawLines alignment x width y (rows + 1) [line] canvas).stretch y x width) =
        List.replicate left ' ' ++ shownSymbols (cut width 0 line.symbols) ++ List.replicate right ' ' := by
  have hcut : widthOf (cut width 0 line.symbols) ≤ width := by
    simpa using widthOf_cut_le (Nat.zero_le width) line.symbols
  have hleft := offset_add_le alignment hcut
  rw [drawLines, drawLines]
  generalize cut width 0 line.symbols = symbols at *
  generalize offset alignment (widthOf symbols) width = left at *
  obtain ⟨n, rfl⟩ := Nat.exists_eq_add_of_le (Nat.le_trans (Nat.le_add_right _ _) hleft)
  have hblank : canvas.BlankAt y (x + left) n := hb.mono (Nat.le_add_right x left) (by omega)
  have hdrawn := textFrom_drawSymbols hblank (Nat.le_of_add_le_add_left hleft)
  have hbefore : (drawSymbols y symbols (x + left) canvas).BlankAt y x left := by
    intro i hi hlt
    rw [Canvas.symbol?, cell?_drawSymbols (.inl (by omega))]
    exact hb i hi (by omega)
  refine ⟨left, n - widthOf symbols, ?_⟩
  rw [rowText_eq_textFrom, Canvas.textFrom_stretch_blank left n hbefore, hdrawn, List.append_assoc]

end Paragraph

end TableDesk.Screen
