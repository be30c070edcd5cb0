/-!
Cutting a text at a number of bytes of its encoding.
-/

namespace TableDesk.Text

def byteLength (text : List Char) : Nat := text.foldr (·.utf8Size + ·) 0

/-- The text behind its first bytes. A character that is only in part among them is left out. -/
def dropBytes : Nat → List Char → List Char
  | 0, text => text
  | _, [] => []
  | count, c :: rest => dropBytes (count - c.utf8Size) rest

/-- The text of its first bytes. A character that is only in part among them belongs to it. -/
def takeBytes : Nat → List Char → List Char
  | 0, _ => []
  | _, [] => []
  | count, c :: rest => c :: takeBytes (count - c.utf8Size) rest

def bytesBetween (start stop : Nat) (text : List Char) : List Char :=
  takeBytes (stop - start) (dropBytes start text)

end TableDesk.Text
