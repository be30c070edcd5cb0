/-!
Colours and styles, and the cells of a screen. A style says what to change about a cell; what it
leaves open stays as it is.
-/

namespace TableDesk.Screen

inductive Color where
  | reset
  | black
  | red
  | yellow
  | cyan
  | gray
  | darkGray
  | white
  | rgb (red green blue : Nat)
  deriving DecidableEq, Repr, Inhabited

/-- A change to the look of a cell. -/
structure Style where
  foreground : Option Color
  background : Option Color
  bold : Bool
  italic : Bool
  deriving DecidableEq, Repr

namespace Style

/-- The style that changes nothing. -/
def plain : Style := ⟨none, none, false, false⟩

def fg (color : Color) : Style := { plain with foreground := some color }

def on (style : Style) (color : Color) : Style := { style with background := some color }

def inBold (style : Style) : Style := { style with bold := true }

def inItalic (style : Style) : Style := { style with italic := true }

/-- One style laid over another. -/
def patch (lower upper : Style) : Style where
  foreground := upper.foreground <|> lower.foreground
  background := upper.background <|> lower.background
  bold := lower.bold || upper.bold
  italic := lower.italic || upper.italic

theorem plain_patch (s : Style) : plain.patch s = s := by
  cases s; simp [patch, plain]

end Style

structure Cell where
  symbol : List Char
  foreground : Color
  background : Color
  bold : Bool
  italic : Bool
  deriving DecidableEq, Repr, Inhabited

namespace Cell

def blank : Cell := ⟨[' '], .reset, .reset, false, false⟩

def restyle (style : Style) (cell : Cell) : Cell where
  symbol := cell.symbol
  foreground := style.foreground.getD cell.foreground
  background := style.background.getD cell.background
  bold := cell.bold || style.bold
  italic := cell.italic || style.italic

def write (symbol : List Char) (style : Style) (cell : Cell) : Cell :=
  { cell.restyle style with symbol }

def append (symbol : List Char) (style : Style) (cell : Cell) : Cell :=
  { cell.restyle style with symbol := cell.symbol ++ symbol }

end Cell

end TableDesk.Screen
