import TableDesk.Text.Marks
import TableDesk.Text.Printable

/-!
A text in double quotes, for a log line: marks and characters that print nothing are written as
their code point.
-/

namespace TableDesk.Text

def hexOf (c : Char) : String :=
  String.ofList (Nat.toDigits 16 c.toNat)

/-- A mark written as an escape. The halfwidth sound marks are letters and stand for themselves. -/
def isHiddenMark (c : Char) : Bool :=
  isAttachedMark c && c ≠ '\uFF9E' && c ≠ '\uFF9F'

def quotedChar (c : Char) : String :=
  if c = '\x00' then "\\0"
  else if c = '\t' then "\\t"
  else if c = '\n' then "\\n"
  else if c = '\r' then "\\r"
  else if c = '\x22' then "\\\""
  else if c = '\\' then "\\\\"
  else if isHiddenMark c || !isPrintable c then "\\u\x7b" ++ hexOf c ++ "\x7d"
  else c.toString

def quoted (text : String) : String :=
  "\"" ++ String.join (text.toList.map quotedChar) ++ "\""

end TableDesk.Text
