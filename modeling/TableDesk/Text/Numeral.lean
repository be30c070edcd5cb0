/-!
Natural numbers in decimal digits.
-/

namespace TableDesk.Text

/-- The value of a row of decimal digits; no digits have none. -/
def readDigits : List Char → Option Nat
  | [] => none
  | digits =>
    if digits.all (·.isDigit) then
      some (digits.foldl (fun n c => 10 * n + (c.toNat - 48)) 0)
    else none

/-- The value of a numeral: digits, possibly after a plus sign. -/
def readNumeral : List Char → Option Nat
  | '+' :: digits => readDigits digits
  | digits => readDigits digits

end TableDesk.Text
