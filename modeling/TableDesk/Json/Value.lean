import TableDesk.Text.Numeral

/-!
JSON values. Numbers keep their spelling, objects keep the order and the repetitions of their
members. A string literal may name half of a surrogate pair; such a literal has no text.
-/

namespace TableDesk.Json

/-- The text of a string literal, `none` when its escapes name half of a surrogate pair. -/
abbrev Text := Option String

inductive Value where
  | null
  | bool (value : Bool)
  | number (spelling : String)
  | string (text : Text)
  | array (items : List Value)
  | object (members : List (Text × Value))
  deriving Repr, Inhabited

def Value.nat (n : Nat) : Value := .number (toString n)

def Value.text (s : String) : Value := .string (some s)

def Value.textOrNull : Option String → Value
  | some s => .text s
  | none => .null

/-- The text of a string that has one. -/
def Value.text? : Value → Option String
  | .string text => text
  | _ => none

/-- The value of an unsigned number of 64 bits: digits only, without fraction or exponent. -/
def Value.word? : Value → Option UInt64
  | .number spelling =>
    ((Text.readDigits spelling.toList).filter (· < UInt64.size)).map Nat.toUInt64
  | _ => none

def Value.bool? : Value → Option Bool
  | .bool b => some b
  | _ => none

def Value.array? : Value → Option (List Value)
  | .array items => some items
  | _ => none

/-- A value that may be null, read by `read` otherwise. -/
def Value.nullable? {α : Type} (read : Value → Option α) : Value → Option (Option α)
  | .null => some none
  | v => (read v).map some

end TableDesk.Json
