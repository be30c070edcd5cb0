import TableDesk.Text.Blank
import TableDesk.Text.Lines

/-!
Breaking a text into lines of a given width, and cutting a block of lines to a given height. Both
take the width of a character as a parameter; breaking also takes the width of a whole word, which
may differ from the sum over its characters. A line is broken before a word that does not fit, and
inside a word only when the word alone is too wide.
-/

namespace TableDesk.Text

/-- The lines written so far, the line being written, and the columns it takes. -/
structure Pen where
  done : List (List Char)
  line : List Char
  used : Nat
  deriving DecidableEq, Repr

def Pen.start : Pen :=
  { done := [], line := [], used := 0 }

/-- Ends the line without the white space at its end. -/
def Pen.break (pen : Pen) : Pen :=
  { done := pen.done ++ [trimEnd pen.line], line := [], used := 0 }

/-- Writes one character, on a new line if it does not fit. A space stays on its line, and so does
a character that has a line to itself. -/
def Pen.put (charWidth : Char → Nat) (limit : Nat) (pen : Pen) (c : Char) : Pen :=
  let pen :=
    if pen.used + charWidth c > limit ∧ ¬(c = ' ' ∨ pen.line = []) then pen.break else pen
  { pen with line := pen.line ++ [c], used := pen.used + charWidth c }

/-- Writes a word with the space after it, on a new line if the word does not fit. -/
def Pen.putWord (charWidth : Char → Nat) (wordWidth : List Char → Nat) (limit : Nat)
    (pen : Pen) (word : List Char) : Pen :=
  let pen :=
    if pen.used + wordWidth (trimEnd word) > limit ∧ pen.line ≠ [] then pen.break else pen
  word.foldl (Pen.put charWidth limit) pen

def wrapParagraph (charWidth : Char → Nat) (wordWidth : List Char → Nat) (limit : Nat)
    (paragraph : List Char) : List (List Char) :=
  ((splitAfter ' ' paragraph).foldl (Pen.putWord charWidth wordWidth limit) Pen.start).break.done

/-- The lines of a text, none wider than the limit where that is possible. The limit is at least
one column. -/
def wrap (charWidth : Char → Nat) (wordWidth : List Char → Nat) (limit : Nat)
    (text : List Char) : List (List Char) :=
  (lines text).flatMap (wrapParagraph charWidth wordWidth (max limit 1))

/-! ### Cutting to a height -/

/-- The longest start of a line that leaves a column for the ellipsis. -/
def shorten (charWidth : Char → Nat) (room : Nat) : List Char → List Char
  | [] => []
  | c :: rest =>
    if charWidth c + 1 > room then [] else c :: shorten charWidth (room - charWidth c) rest

def ellipsize (charWidth : Char → Nat) (width : Nat) : List (List Char) → List (List Char)
  | [] => []
  | [line] => [shorten charWidth width line ++ ['…']]
  | line :: rest => line :: ellipsize charWidth width rest

/-- At most `height` of the lines; if some are dropped, the last one kept ends with an ellipsis. -/
def fit (charWidth : Char → Nat) (height width : Nat) (block : List (List Char)) :
    List (List Char) :=
  if block.length ≤ height then block else ellipsize charWidth width (block.take height)

theorem fit_of_length_le (charWidth : Char → Nat) {height : Nat} (width : Nat)
    {block : List (List Char)} (h : block.length ≤ height) :
    fit charWidth height width block = block := if_pos h

end TableDesk.Text
