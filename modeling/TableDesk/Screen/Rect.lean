/-!
Rectangles on a screen. Sizes and positions have at most sixteen bits, so a sum that would be larger
is cut off there.
-/

namespace TableDesk.Screen

/-- A rectangle by its top left corner and its size. -/
structure Rect where
  x : Nat
  y : Nat
  width : Nat
  height : Nat
  deriving DecidableEq, Repr

namespace Rect

/-- The largest position. -/
def limit : Nat := 65535

def right (r : Rect) : Nat := r.x + r.width

def bottom (r : Rect) : Nat := r.y + r.height

def isEmpty (r : Rect) : Bool := r.width = 0 || r.height = 0

def contains (r : Rect) (x y : Nat) : Bool :=
  r.x ≤ x && x < r.right && r.y ≤ y && y < r.bottom

theorem contains_iff {r : Rect} {x y : Nat} :
    r.contains x y = true ↔ (r.x ≤ x ∧ x < r.right) ∧ r.y ≤ y ∧ y < r.bottom := by
  simp [contains, and_assoc]

def Inside (inner outer : Rect) : Prop :=
  outer.x ≤ inner.x ∧ inner.right ≤ outer.right ∧ outer.y ≤ inner.y ∧ inner.bottom ≤ outer.bottom

/-- The rectangle from some column on. -/
def indent (r : Rect) (columns : Nat) : Rect :=
  { r with x := min (r.x + columns) r.right, width := r.width - columns }

/-- The rectangle inside a frame of one cell. -/
def inner (r : Rect) : Rect where
  x := min (r.x + 1) r.right
  y := min (r.y + 1) r.bottom
  width := r.width - 2
  height := r.height - 2

/-- A rectangle by its corner and its size, cut off where positions end. -/
def clamped (x y width height : Nat) : Rect where
  x := x
  y := y
  width := min width (limit - x)
  height := min height (limit - y)

/-- A rectangle of a given size in the middle of an area, cut to the size of the area. -/
def centered (width height : Nat) (area : Rect) : Rect :=
  clamped (area.x + (area.width - width) / 2) (area.y + (area.height - height) / 2)
    (min width area.width) (min height area.height)

theorem centered_inside (width height : Nat) (area : Rect) :
    (centered width height area).Inside area := by
  simp only [centered, clamped, Inside, right, bottom]
  omega

end Rect

end TableDesk.Screen
