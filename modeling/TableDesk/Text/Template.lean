import TableDesk.Text.Blank
import TableDesk.Text.Numeral

/-!
Message templates. A template is read once into pieces, literal text and numbered placeholders; the
arguments then fill the placeholders and are never read themselves. Apostrophes quote: a doubled one
stands for itself, a single one opens text that is taken literally up to the next single one. A
template without an opening brace is taken as it is, apostrophes included.
-/

namespace TableDesk.Text

/-- A part of a template: text, or the place of an argument with the spelling of that place. -/
inductive Piece where
  | literal (text : List Char)
  | placeholder (index : Nat) (spelling : List Char)
  deriving DecidableEq, Repr

/-- The index that stands between the braces of a placeholder: a numeral of at most 64 bits with
white space around it. -/
def readIndex (inner : List Char) : Option Nat :=
  (readNumeral (trim inner)).filter (· < UInt64.size)

def Piece.ofBraces (inner : List Char) : Piece :=
  let spelling := '\x7b' :: (inner ++ ['\x7d'])
  match readIndex inner with
  | some index => .placeholder index spelling
  | none => .literal spelling

inductive Reading where
  | plain
  | quotation
  | braces (inner : List Char)
  deriving DecidableEq, Repr

def piecesFrom : Reading → List Char → List Piece
  | .plain, '\x27' :: '\x27' :: rest => .literal ['\x27'] :: piecesFrom .plain rest
  | .plain, '\x27' :: rest => piecesFrom .quotation rest
  | .plain, '\x7b' :: rest => piecesFrom (.braces []) rest
  | .plain, c :: rest => .literal [c] :: piecesFrom .plain rest
  | .plain, [] => []
  | .quotation, '\x27' :: '\x27' :: rest => .literal ['\x27'] :: piecesFrom .quotation rest
  | .quotation, '\x27' :: rest => piecesFrom .plain rest
  | .quotation, c :: rest => .literal [c] :: piecesFrom .quotation rest
  | .quotation, [] => []
  | .braces inner, '\x7d' :: rest => .ofBraces inner :: piecesFrom .plain rest
  | .braces inner, c :: rest => piecesFrom (.braces (inner ++ [c])) rest
  | .braces inner, [] => [.literal ('\x7b' :: inner)]

def pieces (template : List Char) : List Piece :=
  if '\x7b' ∈ template then piecesFrom .plain template else [.literal template]

/-- The text of a piece under some arguments. A placeholder without an argument keeps its spelling. -/
def Piece.fill (args : List (List Char)) : Piece → List Char
  | .literal text => text
  | .placeholder index spelling => args[index]?.getD spelling

def fill (template : List Char) (args : List (List Char)) : List Char :=
  (pieces template).flatMap (Piece.fill args)

def formatMessage (template : String) (args : List String) : String :=
  .ofList (fill template.toList (args.map String.toList))

theorem pieces_of_not_mem {template : List Char} (h : '\x7b' ∉ template) :
    pieces template = [.literal template] := if_neg h

theorem fill_of_not_mem {template : List Char} (h : '\x7b' ∉ template) (args : List (List Char)) :
    fill template args = template := by
  simp [fill, pieces_of_not_mem h, Piece.fill]

end TableDesk.Text
