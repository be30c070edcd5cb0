/-!
Sets of characters given by intervals of code points. The tables of character properties in this
folder are such sets.
-/

namespace TableDesk.Text

/-- A set of characters as a list of intervals of code points, both ends included. -/
abbrev Ranges := List (Nat × Nat)

def Ranges.has (ranges : Ranges) (c : Char) : Bool :=
  ranges.any fun (low, high) => low ≤ c.toNat && c.toNat ≤ high

end TableDesk.Text
