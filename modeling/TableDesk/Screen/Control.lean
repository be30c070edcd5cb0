import TableDesk.Screen.Row

/-!
The text with control sequences that makes a terminal show a canvas.
-/

namespace TableDesk.Screen

def control (parameters : String) (final : Char) : String := s!"\x1b[{parameters}{final}"

/-- The parameters that choose a colour, given the number of the first colour of its kind. -/
def Color.parameters (first : Nat) : Color → String
  | .reset => toString (first + 9)
  | .black => toString first
  | .red => toString (first + 1)
  | .yellow => toString (first + 3)
  | .cyan => toString (first + 6)
  | .gray => toString (first + 7)
  | .darkGray => toString (first + 60)
  | .white => toString (first + 67)
  | .rgb r g b => s!"{first + 8};2;{r};{g};{b}"

def Cell.look (cell : Cell) : String :=
  let bold := if cell.bold then ";1" else ""
  let italic := if cell.italic then ";3" else ""
  let foreground := cell.foreground.parameters 30
  let background := cell.background.parameters 40
  control s!"0{bold}{italic};{foreground};{background}" 'm'

def controlRow (row : List Cell) : String :=
  String.join ((visibleCells row).map fun (cell, _) => cell.look ++ String.ofList cell.symbol)

/-- The text that shows a canvas from the top left corner of the terminal on. -/
def Canvas.controlText (canvas : Canvas) : String :=
  let rows := canvas.rows.toList.zipIdx.map fun (row, y) =>
    control s!"{y + 1};1" 'H' ++ controlRow row.toList
  control "?25" 'l' ++ String.join rows ++ control "0" 'm'

/-- The text that hands the terminal over to the program, with a screen of its own. -/
def takeTerminal : String := control "?1049" 'h' ++ control "2" 'J'

def returnTerminal : String := control "?25" 'h' ++ control "?1049" 'l'

end TableDesk.Screen
