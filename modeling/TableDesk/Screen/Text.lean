import TableDesk.Screen.Canvas
import TableDesk.Text.Cluster
import TableDesk.Text.Lines
import TableDesk.Text.Width

/-!
Styled text and how it is drawn on one row. A symbol that takes two columns blanks the cell that it
hides; a symbol without a width joins the cell before it.
-/

namespace TableDesk.Screen

structure Span where
  text : List Char
  style : Style
  deriving DecidableEq, Repr

structure Symbol where
  chars : List Char
  style : Style
  deriving DecidableEq, Repr

namespace Span

def styled (text : String) (style : Style) : Span := ⟨text.toList, style⟩

/-- A text that keeps the style that it is drawn on. -/
def raw (text : String) : Span := .styled text .plain

def width (span : Span) : Nat := Text.width span.text

/-- The symbols of a span, in its style over another one. A line feed has none. -/
def symbols (base : Style) (span : Span) : List Symbol :=
  let style := base.patch span.style
  ((Text.clusters span.text).filter (· ≠ ['\n'])).map (⟨·, style⟩)

def hide (y : Nat) (fromX toX : Nat) (canvas : Canvas) : Canvas :=
  Canvas.modifyRow fromX y (fun _ => .blank) (toX - fromX) canvas

/-- Draws symbols on the row `y` from the column `x` on. The first column of the area is `left`, the
first column behind it is `right`; `first` tells whether no symbol has been drawn yet. -/
def drawSymbols (left right y : Nat) : List Symbol → (first : Bool) → (x : Nat) → Canvas → Canvas
  | [], _, _, canvas => canvas
  | s :: rest, first, x, canvas =>
    let width := Text.width s.chars
    let next := x + width
    if next > right then canvas
    else
      let canvas :=
        if first then canvas.modify x y (Cell.write s.chars s.style)
        else if x = left then canvas.modify x y (Cell.append s.chars s.style)
        else if width = 0 then canvas.modify (x - 1) y (Cell.append s.chars s.style)
        else canvas.modify x y (Cell.write s.chars s.style)
      drawSymbols left right y rest false next (hide y (x + 1) next canvas)

def draw (span : Span) (area : Rect) (canvas : Canvas) : Canvas :=
  if area.isEmpty then canvas
  else drawSymbols area.x area.right area.y (span.symbols .plain) true area.x canvas

end Span

/-- A line of spans with a style under all of them. -/
structure StyledLine where
  spans : List Span
  style : Style
  deriving DecidableEq, Repr

namespace StyledLine

def ofSpans (spans : List Span) : StyledLine := ⟨spans, .plain⟩

/-- A line of a text in a style. The lines of the text follow each other without a gap. -/
def styled (text : String) (style : Style) : StyledLine :=
  ⟨(Text.lines text.toList).map (⟨·, .plain⟩), style⟩

def raw (text : String) : StyledLine := .styled text .plain

def width (line : StyledLine) : Nat := line.spans.foldr (·.width + ·) 0

def symbols (line : StyledLine) : List Symbol := line.spans.flatMap (Span.symbols line.style)

def drawSpans : List Span → Rect → Canvas → Canvas
  | [], _, canvas => canvas
  | span :: rest, area, canvas =>
    if span.width = 0 then drawSpans rest area canvas
    else if area.isEmpty then canvas
    else drawSpans rest (area.indent span.width) (span.draw area canvas)

def draw (line : StyledLine) (area : Rect) (canvas : Canvas) : Canvas :=
  if area.isEmpty || line.width = 0 then canvas
  else
    let row := { area with height := 1 }
    drawSpans line.spans row (canvas.restyle row line.style)

end StyledLine

inductive Alignment where
  | left
  | center
  deriving DecidableEq, Repr

end TableDesk.Screen
