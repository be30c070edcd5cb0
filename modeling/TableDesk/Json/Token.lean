import TableDesk.Json.Value

/-!
The tokens of a JSON text. Reading goes from character to character, so white space between tokens
leaves no trace: two layouts of one value have the same tokens.
-/

namespace TableDesk.Json

/-- A token. A word of letters is a token by itself. -/
inductive Token where
  | openBrace
  | closeBrace
  | openBracket
  | closeBracket
  | colon
  | comma
  | null
  | bool (value : Bool)
  | number (spelling : String)
  | string (text : Text)
  deriving DecidableEq, Repr

/-! ### Strings -/

/-- A part of a string literal: a character, or the code unit that an escape names. -/
inductive Unit16 where
  | char (c : Char)
  | unit (n : Nat)
  deriving DecidableEq, Repr

/-- The text that the parts of a string literal spell. Two halves of a surrogate pair make one
character, a half by itself makes none. -/
def textOfUnits : List Unit16 → Option (List Char)
  | [] => some []
  | .char c :: rest => (textOfUnits rest).map (c :: ·)
  | .unit high :: .unit low :: rest =>
    if 0xD800 ≤ high ∧ high < 0xDC00 then
      if 0xDC00 ≤ low ∧ low < 0xE000 then
        (textOfUnits rest).map
          (Char.ofNat (0x10000 + (high - 0xD800) * 0x400 + (low - 0xDC00)) :: ·)
      else none
    else if 0xDC00 ≤ high ∧ high < 0xE000 then none
    else (textOfUnits (.unit low :: rest)).map (Char.ofNat high :: ·)
  | .unit n :: rest =>
    if 0xD800 ≤ n ∧ n < 0xE000 then none else (textOfUnits rest).map (Char.ofNat n :: ·)

def simpleEscape : Char → Option Char
  | '\x22' => some '\x22'
  | '\\' => some '\\'
  | '/' => some '/'
  | 'b' => some '\x08'
  | 'f' => some '\x0c'
  | 'n' => some '\n'
  | 'r' => some '\r'
  | 't' => some '\t'
  | _ => none

def hexDigit (c : Char) : Option Nat :=
  if '0' ≤ c ∧ c ≤ '9' then some (c.toNat - 48)
  else if 'a' ≤ c ∧ c ≤ 'f' then some (c.toNat - 87)
  else if 'A' ≤ c ∧ c ≤ 'F' then some (c.toNat - 55)
  else none

/-! ### Numbers -/

/-- How far the spelling of a number has come. -/
inductive Digits where
  | sign
  | zero
  | whole
  | point
  | fraction
  | exponent
  | exponentSign
  | power
  deriving DecidableEq, Repr

def Digits.complete : Digits → Bool
  | .zero | .whole | .fraction | .power => true
  | _ => false

def Digits.start? (c : Char) : Option Digits :=
  if c = '-' then some .sign
  else if c = '0' then some .zero
  else if c.isDigit then some .whole
  else none

def Digits.next (d : Digits) (c : Char) : Option Digits :=
  match d with
  | .sign => if c = '0' then some .zero else if c.isDigit then some .whole else none
  | .zero =>
    if c = '.' then some .point else if c = 'e' ∨ c = 'E' then some .exponent else none
  | .whole =>
    if c.isDigit then some .whole
    else if c = '.' then some .point else if c = 'e' ∨ c = 'E' then some .exponent else none
  | .point => if c.isDigit then some .fraction else none
  | .fraction =>
    if c.isDigit then some .fraction else if c = 'e' ∨ c = 'E' then some .exponent else none
  | .exponent =>
    if c = '+' ∨ c = '-' then some .exponentSign else if c.isDigit then some .power else none
  | .exponentSign => if c.isDigit then some .power else none
  | .power => if c.isDigit then some .power else none

/-! ### The reader -/

/-- Where the reader of characters stands, inside which token. -/
inductive Place where
  | between
  | word (letters : List Char)
  | number (spelling : List Char) (digits : Digits)
  | string (units : List Unit16)
  | escape (units : List Unit16)
  | unicode (units : List Unit16) (value count : Nat)
  deriving DecidableEq, Repr

/-- The reader of characters: the tokens read so far, the last one first, and its place. -/
structure Scanner where
  tokens : List Token
  place : Place
  deriving DecidableEq, Repr

def isSpace (c : Char) : Bool :=
  c = ' ' || c = '\n' || c = '\t' || c = '\r'

def wordToken (letters : List Char) : Option Token :=
  if letters = ['t', 'r', 'u', 'e'] then some (.bool true)
  else if letters = ['f', 'a', 'l', 's', 'e'] then some (.bool false)
  else if letters = ['n', 'u', 'l', 'l'] then some .null
  else none

/-- Starts a token, or skips white space. -/
def Scanner.enter (tokens : List Token) (c : Char) : Option Scanner :=
  if isSpace c then some ⟨tokens, .between⟩
  else if c = '\x7b' then some ⟨.openBrace :: tokens, .between⟩
  else if c = '\x7d' then some ⟨.closeBrace :: tokens, .between⟩
  else if c = '[' then some ⟨.openBracket :: tokens, .between⟩
  else if c = ']' then some ⟨.closeBracket :: tokens, .between⟩
  else if c = ':' then some ⟨.colon :: tokens, .between⟩
  else if c = ',' then some ⟨.comma :: tokens, .between⟩
  else if c = '\x22' then some ⟨tokens, .string []⟩
  else
    match Digits.start? c with
    | some digits => some ⟨tokens, .number [c] digits⟩
    | none => if c.isLower then some ⟨tokens, .word [c]⟩ else none

/-- Ends the token under way, if it is complete. -/
def Scanner.leave (s : Scanner) : Option (List Token) :=
  match s.place with
  | .between => some s.tokens
  | .word letters => (wordToken letters).map (· :: s.tokens)
  | .number spelling digits =>
    if digits.complete then some (.number (String.ofList spelling) :: s.tokens) else none
  | _ => none

def Scanner.step (s : Scanner) (c : Char) : Option Scanner :=
  match s.place with
  | .between => Scanner.enter s.tokens c
  | .word letters =>
    if c.isLower then some ⟨s.tokens, .word (letters ++ [c])⟩
    else s.leave.bind (Scanner.enter · c)
  | .number spelling digits =>
    match digits.next c with
    | some digits => some ⟨s.tokens, .number (spelling ++ [c]) digits⟩
    | none => s.leave.bind (Scanner.enter · c)
  | .string units =>
    if c = '\x22' then
      some ⟨.string ((textOfUnits units).map String.ofList) :: s.tokens, .between⟩
    else if c = '\\' then some ⟨s.tokens, .escape units⟩
    else if c.toNat < 0x20 then none
    else some ⟨s.tokens, .string (units ++ [.char c])⟩
  | .escape units =>
    if c = 'u' then some ⟨s.tokens, .unicode units 0 0⟩
    else (simpleEscape c).map fun e => ⟨s.tokens, .string (units ++ [.char e])⟩
  | .unicode units value count =>
    (hexDigit c).map fun d =>
      if count = 3 then ⟨s.tokens, .string (units ++ [.unit (16 * value + d)])⟩
      else ⟨s.tokens, .unicode units (16 * value + d) (count + 1)⟩

def tokens? (text : List Char) : Option (List Token) :=
  ((text.foldlM Scanner.step ⟨[], .between⟩).bind Scanner.leave).map List.reverse

end TableDesk.Json
