import TableDesk.Screen.Rect
import TableDesk.Screen.Style

/-!
A canvas of cells in rows. Drawing outside the canvas does nothing.
-/

namespace TableDesk.Screen

/-- The cells of a screen, row by row. -/
structure Canvas where
  rows : Array (Array Cell)
  deriving Repr

namespace Canvas

def blank (width height : Nat) : Canvas :=
  ⟨Array.replicate height (Array.replicate width Cell.blank)⟩

def cell? (canvas : Canvas) (x y : Nat) : Option Cell :=
  canvas.rows[y]?.bind (·[x]?)

def modify (canvas : Canvas) (x y : Nat) (f : Cell → Cell) : Canvas :=
  ⟨canvas.rows.modify y fun row => row.modify x f⟩

/-- Changes some cells of a row, from a column on. -/
def modifyRow (x y : Nat) (f : Cell → Cell) : Nat → Canvas → Canvas
  | 0, canvas => canvas
  | n + 1, canvas => modifyRow (x + 1) y f n (canvas.modify x y f)

def modifyRows (x y width : Nat) (f : Cell → Cell) : Nat → Canvas → Canvas
  | 0, canvas => canvas
  | n + 1, canvas => modifyRows x (y + 1) width f n (modifyRow x y f width canvas)

def modifyRect (canvas : Canvas) (area : Rect) (f : Cell → Cell) : Canvas :=
  modifyRows area.x area.y area.width f area.height canvas

def restyle (canvas : Canvas) (area : Rect) (style : Style) : Canvas :=
  canvas.modifyRect area (Cell.restyle style)

def clear (canvas : Canvas) (area : Rect) : Canvas :=
  canvas.modifyRect area fun _ => .blank

theorem cell?_modify (canvas : Canvas) (x y x' y' : Nat) (f : Cell → Cell) :
    (canvas.modify x y f).cell? x' y' =
      if x = x' ∧ y = y' then (canvas.cell? x' y').map f else canvas.cell? x' y' := by
  simp only [modify, cell?, Array.getElem?_modify]
  by_cases hy : y = y'
  · subst hy
    cases canvas.rows[y]? with
    | none => simp
    | some row =>
      by_cases hx : x = x'
      · simp [hx, Array.getElem?_modify]
      · simp [hx, Array.getElem?_modify]
  · simp [hy]

/-- A change of some cells of a row changes them and no others. -/
theorem cell?_modifyRow (x y n x' y' : Nat) (f : Cell → Cell) (canvas : Canvas) :
    (modifyRow x y f n canvas).cell? x' y' =
      if y = y' ∧ x ≤ x' ∧ x' < x + n then (canvas.cell? x' y').map f else canvas.cell? x' y' := by
  induction n generalizing x canvas with
  | zero => rw [modifyRow, if_neg (by omega)]
  | succ n ih =>
    rw [modifyRow, ih, cell?_modify]
    by_cases hlater : y = y' ∧ x + 1 ≤ x' ∧ x' < x + 1 + n
    · rw [if_pos hlater, if_neg (by omega), if_pos (by omega)]
    · rw [if_neg hlater]
      by_cases hfirst : x = x' ∧ y = y'
      · rw [if_pos hfirst, if_pos (by omega)]
      · rw [if_neg hfirst, if_neg (by omega)]

theorem cell?_modifyRows (x y width n x' y' : Nat) (f : Cell → Cell) (canvas : Canvas) :
    (modifyRows x y width f n canvas).cell? x' y' =
      if (x ≤ x' ∧ x' < x + width) ∧ y ≤ y' ∧ y' < y + n then (canvas.cell? x' y').map f
      else canvas.cell? x' y' := by
  induction n generalizing y canvas with
  | zero => rw [modifyRows, if_neg (by omega)]
  | succ n ih =>
    rw [modifyRows, ih, cell?_modifyRow]
    by_cases hlater : (x ≤ x' ∧ x' < x + width) ∧ y + 1 ≤ y' ∧ y' < y + 1 + n
    · rw [if_pos hlater, if_neg (by omega), if_pos (by omega)]
    · rw [if_neg hlater]
      by_cases hfirst : y = y' ∧ x ≤ x' ∧ x' < x + width
      · rw [if_pos hfirst, if_pos (by omega)]
      · rw [if_neg hfirst, if_neg (by omega)]

/-- A change of a rectangle changes the cells inside and no others. -/
theorem cell?_modifyRect (canvas : Canvas) (area : Rect) (f : Cell → Cell) (x y : Nat) :
    (canvas.modifyRect area f).cell? x y =
      if area.contains x y then (canvas.cell? x y).map f else canvas.cell? x y := by
  simp only [modifyRect, cell?_modifyRows, Rect.contains_iff, Rect.right, Rect.bottom]

end Canvas

end TableDesk.Screen
