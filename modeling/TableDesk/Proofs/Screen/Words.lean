import TableDesk.Screen.Rect

/-!
Rectangles in words of sixteen bits. A plain sum of two words may not fit into a word, and then there is no result.
Placing a rectangle in the middle of an area that lies below the largest position always has one, and it is the
same as with numbers of any size.
-/

namespace TableDesk.Screen

namespace Word

def add? (a b : UInt16) : Option UInt16 := if a.toNat + b.toNat ≤ Rect.limit then some (a + b) else none

/-- The sum of two words, or the largest word. -/
def addSat (a b : UInt16) : UInt16 := (add? a b).getD 65535

/-- The difference of two words, or zero. -/
def subSat (a b : UInt16) : UInt16 := if b ≤ a then a - b else 0

def ofNat? (n : Nat) : Option UInt16 := if n ≤ Rect.limit then some (.ofNat n) else none

theorem toNat_le_limit (a : UInt16) : a.toNat ≤ Rect.limit := Nat.le_of_lt_succ a.toNat_lt

theorem add?_of_le {a b : UInt16} (h : a.toNat + b.toNat ≤ Rect.limit) :
    ∃ sum, add? a b = some sum ∧ sum.toNat = a.toNat + b.toNat := by
  refine ⟨a + b, if_pos h, ?_⟩
  rw [UInt16.toNat_add]
  exact Nat.mod_eq_of_lt (Nat.lt_succ_of_le h)

theorem toNat_addSat (a b : UInt16) : (addSat a b).toNat = min (a.toNat + b.toNat) Rect.limit := by
  by_cases h : a.toNat + b.toNat ≤ Rect.limit
  · obtain ⟨sum, hs, hn⟩ := add?_of_le h
    rw [addSat, hs, Option.getD_some, hn, Nat.min_eq_left h]
  · rw [addSat, add?, if_neg h, Nat.min_eq_right (Nat.le_of_not_le h)]
    rfl

theorem toNat_subSat (a b : UInt16) : (subSat a b).toNat = a.toNat - b.toNat := by
  rw [subSat]
  split
  next h => exact UInt16.toNat_sub_of_le a b h
  next h =>
    have := UInt16.not_le.1 h
    rw [UInt16.lt_iff_toNat_lt] at this
    exact (Nat.sub_eq_zero_of_le (Nat.le_of_lt this)).symm

theorem toNat_ofNat?_getD (n : Nat) (other : UInt16) :
    ((ofNat? n).getD other).toNat = if n ≤ Rect.limit then n else other.toNat := by
  rw [ofNat?]
  split
  next h => exact UInt16.toNat_ofNat_of_lt' (Nat.lt_succ_of_le h)
  next => rfl

theorem toNat_min (a b : UInt16) : (min a b).toNat = min a.toNat b.toNat := by
  show (if a ≤ b then a else b).toNat = _
  by_cases h : a ≤ b
  · rw [if_pos h, Nat.min_eq_left (UInt16.le_iff_toNat_le.1 h)]
  · have hn := mt UInt16.le_iff_toNat_le.2 h
    rw [if_neg h, Nat.min_eq_right (Nat.le_of_not_le hn)]

theorem toNat_max (a b : UInt16) : (max a b).toNat = max a.toNat b.toNat := by
  show (if a ≤ b then b else a).toNat = _
  by_cases h : a ≤ b
  · rw [if_pos h, Nat.max_eq_right (UInt16.le_iff_toNat_le.1 h)]
  · have hn := mt UInt16.le_iff_toNat_le.2 h
    rw [if_neg h, Nat.max_eq_left (Nat.le_of_not_le hn)]

end Word

structure WordRect where
  x : UInt16
  y : UInt16
  width : UInt16
  height : UInt16
  deriving DecidableEq, Repr

namespace WordRect

open Word

def toRect (r : WordRect) : Rect := ⟨r.x.toNat, r.y.toNat, r.width.toNat, r.height.toNat⟩

def clamped (x y width height : UInt16) : WordRect where
  x := x
  y := y
  width := min width (65535 - x)
  height := min height (65535 - y)

/-- A rectangle of a given size in the middle of an area, cut to the size of the area. -/
def centered? (width height : UInt16) (area : WordRect) : Option WordRect := do
  let x ← add? area.x (subSat area.width width / 2)
  let y ← add? area.y (subSat area.height height / 2)
  return clamped x y (min width area.width) (min height area.height)

theorem toRect_clamped (x y width height : UInt16) :
    (clamped x y width height).toRect = .clamped x.toNat y.toNat width.toNat height.toNat := by
  have hx := UInt16.toNat_sub_of_le 65535 x (UInt16.le_iff_toNat_le.2 (toNat_le_limit x))
  have hy := UInt16.toNat_sub_of_le 65535 y (UInt16.le_iff_toNat_le.2 (toNat_le_limit y))
  simp only [toRect, clamped, Rect.clamped, toNat_min, hx, hy]
  rfl

/-- Nothing is lost where the middle of an area is found in words. -/
theorem toRect_centered? {area : WordRect} (hr : area.toRect.right ≤ Rect.limit)
    (hb : area.toRect.bottom ≤ Rect.limit) (width height : UInt16) :
    (centered? width height area).map toRect = some (.centered width.toNat height.toNat area.toRect) := by
  have half : ∀ a b : UInt16, (subSat a b / 2).toNat = (a.toNat - b.toNat) / 2 := by
    intro a b
    rw [UInt16.toNat_div, toNat_subSat]
    rfl
  have hhalf : ∀ start size other : UInt16, start.toNat + size.toNat ≤ Rect.limit →
      start.toNat + (subSat size other / 2).toNat ≤ Rect.limit := by
    intro start size other h
    rw [half]
    omega
  obtain ⟨x, hx, hxn⟩ := add?_of_le (hhalf area.x area.width width hr)
  obtain ⟨y, hy, hyn⟩ := add?_of_le (hhalf area.y area.height height hb)
  rw [centered?, hx, hy]
  show some (toRect (clamped x y (min width area.width) (min height area.height))) = _
  rw [toRect_clamped, hxn, hyn, half, half, toNat_min, toNat_min]
  rfl

end WordRect

namespace Rect

def toWords (r : Rect) : WordRect := ⟨.ofNat r.x, .ofNat r.y, .ofNat r.width, .ofNat r.height⟩

theorem toRect_toWords {r : Rect} (hr : r.right ≤ limit) (hb : r.bottom ≤ limit) : r.toWords.toRect = r := by
  have hword : ∀ n, n ≤ limit → (UInt16.ofNat n).toNat = n := fun n h =>
    UInt16.toNat_ofNat_of_lt' (Nat.lt_succ_of_le h)
  unfold right at hr
  unfold bottom at hb
  simp only [toWords, WordRect.toRect]
  rw [hword r.x (by omega), hword r.y (by omega), hword r.width (by omega), hword r.height (by omega)]

end Rect

end TableDesk.Screen
