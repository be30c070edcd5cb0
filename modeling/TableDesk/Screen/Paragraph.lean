import TableDesk.Screen.Text

/-!
Paragraphs: lines below each other, each cut off at the right side of the area. Symbols without a
width are not drawn.
-/

namespace TableDesk.Screen

structure Paragraph where
  lines : List StyledLine
  style : Style
  alignment : Alignment
  deriving DecidableEq, Repr

namespace Paragraph

/-- The symbols that fit into a width. A symbol wider than the whole width is left out. -/
def cut (limit : Nat) : (used : Nat) → List Symbol → List Symbol
  | _, [] => []
  | used, s :: rest =>
    let width := Text.width s.chars
    if width > limit then cut limit used rest
    else if used + width > limit then []
    else s :: cut limit (used + width) rest

def widthOf (symbols : List Symbol) : Nat := symbols.foldr (Text.width ·.chars + ·) 0

/-- The first column of a line inside its area. -/
def offset (alignment : Alignment) (lineWidth areaWidth : Nat) : Nat :=
  match alignment with
  | .left => 0
  | .center => areaWidth / 2 - lineWidth / 2

def drawSymbols (y : Nat) : List Symbol → (x : Nat) → Canvas → Canvas
  | [], _, canvas => canvas
  | s :: rest, x, canvas =>
    let width := Text.width s.chars
    if width = 0 then drawSymbols y rest x canvas
    else drawSymbols y rest (x + width) (canvas.modify x y (Cell.write s.chars s.style))

/-- Draws lines below each other, as many as there are rows. -/
def drawLines (alignment : Alignment) (x width : Nat) :
    (y rows : Nat) → List StyledLine → Canvas → Canvas
  | _, _, [], canvas => canvas
  | _, 0, _, canvas => canvas
  | y, rows + 1, line :: rest, canvas =>
    let symbols := cut width 0 line.symbols
    let start := x + offset alignment (widthOf symbols) width
    drawLines alignment x width (y + 1) rows rest (drawSymbols y symbols start canvas)

def draw (p : Paragraph) (area : Rect) (canvas : Canvas) : Canvas :=
  let canvas := canvas.restyle area p.style
  if area.isEmpty then canvas
  else drawLines p.alignment area.x area.width area.y area.height p.lines canvas

end Paragraph

end TableDesk.Screen
