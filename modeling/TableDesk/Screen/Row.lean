import TableDesk.Screen.Canvas
import TableDesk.Text.Width

/-!
What can be seen of a row of cells. A symbol that is wider than its cell hides the cells behind it.
-/

namespace TableDesk.Screen

/-- The visible cells, each with the columns that it covers, behind the number of cells in front of
them that are hidden. The first `hidden` cells are hidden already. A hidden cell hides nothing. -/
def visibleFrom : (hidden : Nat) → List Cell → Nat × List (Cell × Nat)
  | _, [] => (0, [])
  | 0, cell :: rest =>
    let (more, shown) := visibleFrom (Text.width cell.symbol - 1) rest
    (0, (cell, more + 1) :: shown)
  | hidden + 1, _ :: rest =>
    let (more, shown) := visibleFrom hidden rest
    (more + 1, shown)

def visibleCells (row : List Cell) : List (Cell × Nat) := (visibleFrom 0 row).2

/-- Every cell is covered once. -/
theorem sum_visibleFrom (hidden : Nat) (row : List Cell) :
    (visibleFrom hidden row).1 + (visibleFrom hidden row).2.foldr (·.2 + ·) 0 = row.length := by
  induction row generalizing hidden with
  | nil => cases hidden <;> rfl
  | cons cell rest ih =>
    cases hidden with
    | zero =>
      have := ih (Text.width cell.symbol - 1)
      simp only [visibleFrom, List.foldr_cons, List.length_cons]
      omega
    | succ hidden =>
      have := ih hidden
      simp only [visibleFrom, List.length_cons]
      omega

def rowText (row : List Cell) : List Char := (visibleCells row).flatMap (·.1.symbol)

end TableDesk.Screen
