/-!
White space as the character property White_Space defines it, and trimming by that property.
-/

namespace TableDesk.Text

/-- The twenty-five characters with the property White_Space. -/
def isBlank (c : Char) : Bool :=
  let n := c.toNat
  (0x9 ≤ n && n ≤ 0xD) || n == 0x20 || n == 0x85 || n == 0xA0 || n == 0x1680 ||
    (0x2000 ≤ n && n ≤ 0x200A) || n == 0x2028 || n == 0x2029 || n == 0x202F || n == 0x205F ||
    n == 0x3000

def trimEnd : List Char → List Char
  | [] => []
  | c :: rest =>
    match trimEnd rest with
    | [] => if isBlank c then [] else [c]
    | kept => c :: kept

def trim (text : List Char) : List Char :=
  trimEnd (text.dropWhile isBlank)

theorem trimEnd_nil : trimEnd [] = [] := rfl

theorem trimEnd_cons_of_ne_nil (c : Char) {rest : List Char} (h : trimEnd rest ≠ []) :
    trimEnd (c :: rest) = c :: trimEnd rest := by
  rw [trimEnd]
  split
  · contradiction
  · rfl

theorem trimEnd_cons_of_eq_nil (c : Char) {rest : List Char} (h : trimEnd rest = []) :
    trimEnd (c :: rest) = if isBlank c then [] else [c] := by
  rw [trimEnd, h]

end TableDesk.Text
