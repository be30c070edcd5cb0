import TableDesk.Input.Event

/-!
Reports about keys from the bytes that a terminal sends. Most keys are one character; others are a
sequence that begins with the escape character. A decoder holds what it has read of a key that is
not complete yet and takes one step for each byte.
-/

namespace TableDesk.Input

/-- What has been read of a key: nothing, the escape character, a sequence up to its parameters, or
some bytes of a character. -/
inductive Decoder where
  | ready
  | escape
  | letter
  | sequence (parameters : List Char)
  | character (alt : Bool) (bytes : List UInt8)
  deriving DecidableEq, Repr, Inhabited

namespace Decoder

def press (code : KeyCode) (modifiers : Modifiers) : KeyEvent := ⟨code, modifiers, .press⟩

/-- The key of a character. Below the space are the keys held down with the control key. -/
def keyOfChar (alt : Bool) (c : Char) : KeyEvent :=
  let modifiers : Modifiers := { Modifiers.none with alt }
  if c = '\r' then press .enter modifiers
  else if c = '\t' then press .tab modifiers
  else if c = '\x7f' then press (.other "Backspace") modifiers
  else if c.toNat = 0 then press (.char ' ') { modifiers with control := true }
  else if c.toNat < 0x1B then
    press (.char (Char.ofNat (c.toNat + 0x60))) { modifiers with control := true }
  else if c.toNat < 0x20 then
    press (.char (Char.ofNat (c.toNat + 0x18))) { modifiers with control := true }
  else press (.char c) modifiers

/-- The modifiers of a number in a sequence, which is one more than the sum of their weights. -/
def modifiersOf (number : Nat) : Modifiers :=
  let weights := number - 1
  ⟨weights.testBit 0, weights.testBit 2, weights.testBit 1, weights.testBit 3, weights.testBit 4,
    weights.testBit 5⟩

/-- The key of the letter that ends a sequence. -/
def codeOfLetter? (c : Char) : Option KeyCode :=
  if c = 'A' then some .up
  else if c = 'B' then some .down
  else if c = 'C' then some .right
  else if c = 'D' then some .left
  else if c = 'H' then some .home
  else if c = 'F' then some .endKey
  else if c = 'Z' then some .backTab
  else none

/-- The key of the number in a sequence that ends with a tilde. -/
def codeOfNumber? (n : Nat) : Option KeyCode :=
  if n = 1 ∨ n = 7 then some .home
  else if n = 3 then some .delete
  else if n = 4 ∨ n = 8 then some .endKey
  else none

def numbersOf (parameters : List Char) : List Nat :=
  ((String.ofList parameters).splitOn ";").map fun part => part.toNat?.getD 1

def keyOfSequence? (parameters : List Char) (final : Char) : Option KeyEvent :=
  let numbers := numbersOf parameters
  let modifiers := modifiersOf ((numbers[1]?).getD 1)
  let code := if final = '~' then (numbers.head?).bind codeOfNumber? else codeOfLetter? final
  code.map (press · modifiers)

/-- The number of bytes of a character that begins with a byte. -/
def lengthOf (byte : UInt8) : Nat :=
  if byte < 0xC0 then 1 else if byte < 0xE0 then 2 else if byte < 0xF0 then 3 else 4

/-- Reads on in a character, which is a key when all its bytes are there. Bytes that are no
character are no key. -/
def character? (alt : Bool) (bytes : List UInt8) : Decoder × Option KeyEvent :=
  match bytes.head? with
  | none => (.ready, none)
  | some first =>
    if bytes.length < lengthOf first then (.character alt bytes, none)
    else
      match (String.fromUTF8? ⟨bytes.toArray⟩).map (·.toList) with
      | some [c] => (.ready, some (keyOfChar alt c))
      | _ => (.ready, none)

def step (d : Decoder) (byte : UInt8) : Decoder × Option KeyEvent :=
  let c := Char.ofNat byte.toNat
  match d with
  | .ready => if c = '\x1b' then (.escape, none) else character? false [byte]
  | .escape =>
    if c = '[' then (.sequence [], none)
    else if c = 'O' then (.letter, none)
    else if c = '\x1b' then (.ready, some (press .escape .none))
    else character? true [byte]
  | .letter => (.ready, (codeOfLetter? c).map (press · .none))
  | .sequence parameters =>
    if c.isDigit ∨ c = ';' then (.sequence (parameters ++ [c]), none)
    else (.ready, keyOfSequence? parameters c)
  | .character alt bytes => character? alt (bytes ++ [byte])

end Decoder

end TableDesk.Input
