import TableDesk.Json.Value

/-!
Writing JSON values, on one line or with two spaces of indentation per level. Escapes are used for
quotes, backslashes and control characters only; an empty array or object is written on one line in
both layouts.
-/

namespace TableDesk.Json

/-- A control character as an escape of four hexadecimal digits. -/
def unicodeEscape (c : Char) : List Char :=
  let digits := Nat.toDigits 16 c.toNat
  '\\' :: 'u' :: (List.replicate (4 - digits.length) '0' ++ digits)

def escapeChar (c : Char) : List Char :=
  if c = '\x22' then ['\\', '\x22']
  else if c = '\\' then ['\\', '\\']
  else if c = '\x08' then ['\\', 'b']
  else if c = '\x0c' then ['\\', 'f']
  else if c = '\n' then ['\\', 'n']
  else if c = '\r' then ['\\', 'r']
  else if c = '\t' then ['\\', 't']
  else if c.toNat < 0x20 then unicodeEscape c
  else [c]

/-- A string literal. One without a text is written as half of a surrogate pair. -/
def literal : Text → List Char
  | some s => '\x22' :: (s.toList.flatMap escapeChar ++ ['\x22'])
  | none => "\"\\ud800\"".toList

mutual

def Value.compactChars : Value → List Char
  | .null => "null".toList
  | .bool true => "true".toList
  | .bool false => "false".toList
  | .number spelling => spelling.toList
  | .string text => literal text
  | .array items => '[' :: (compactItems items ++ [']'])
  | .object members => '\x7b' :: (compactMembers members ++ ['\x7d'])

def compactItems : List Value → List Char
  | [] => []
  | [v] => v.compactChars
  | v :: rest => v.compactChars ++ ',' :: compactItems rest

def compactMembers : List (Text × Value) → List Char
  | [] => []
  | [(key, v)] => literal key ++ ':' :: v.compactChars
  | (key, v) :: rest => literal key ++ ':' :: (v.compactChars ++ ',' :: compactMembers rest)

end

/-- A new line with some levels of indentation. -/
def indent (level : Nat) : List Char :=
  '\n' :: List.replicate (2 * level) ' '

mutual

/-- A value over several lines, inside some levels of indentation. -/
def Value.prettyChars (level : Nat) : Value → List Char
  | .null => "null".toList
  | .bool true => "true".toList
  | .bool false => "false".toList
  | .number spelling => spelling.toList
  | .string text => literal text
  | .array [] => ['[', ']']
  | .array items => '[' :: (prettyItems (level + 1) items ++ indent level ++ [']'])
  | .object [] => ['\x7b', '\x7d']
  | .object members => '\x7b' :: (prettyMembers (level + 1) members ++ indent level ++ ['\x7d'])

def prettyItems (level : Nat) : List Value → List Char
  | [] => []
  | [v] => indent level ++ v.prettyChars level
  | v :: rest => indent level ++ v.prettyChars level ++ ',' :: prettyItems level rest

def prettyMembers (level : Nat) : List (Text × Value) → List Char
  | [] => []
  | [(key, v)] => indent level ++ literal key ++ ':' :: ' ' :: v.prettyChars level
  | (key, v) :: rest =>
    indent level ++ literal key ++ ':' :: ' ' :: (v.prettyChars level ++ ',' ::
      prettyMembers level rest)

end

def Value.compact (v : Value) : String := .ofList v.compactChars

def Value.pretty (v : Value) : String := .ofList (v.prettyChars 0)

end TableDesk.Json
