import TableDesk.Json.Token

/-!
Reading a JSON value from its tokens. The reader keeps a stack of the arrays and objects that are
still open and knows what must come next, so it takes one step per token and nests without limit.
-/

namespace TableDesk.Json

/-- An array or object that is still open, with the last part first. -/
inductive Frame where
  | array (items : List Value)
  | object (members : List (Text × Value)) (key : Text)
  deriving Repr

inductive Expectation where
  | value
  | firstItem
  | firstKey (members : List (Text × Value))
  | nextKey (members : List (Text × Value))
  | colon (members : List (Text × Value)) (key : Text)
  | complete (value : Value)
  deriving Repr

structure Reader where
  stack : List Frame
  next : Expectation
  deriving Repr

def Reader.start : Reader := ⟨[], .value⟩

def Reader.begin (stack : List Frame) : Token → Option Reader
  | .null => some ⟨stack, .complete .null⟩
  | .bool b => some ⟨stack, .complete (.bool b)⟩
  | .number spelling => some ⟨stack, .complete (.number spelling)⟩
  | .string text => some ⟨stack, .complete (.string text)⟩
  | .openBracket => some ⟨stack, .firstItem⟩
  | .openBrace => some ⟨stack, .firstKey []⟩
  | _ => none

def Reader.step (r : Reader) (t : Token) : Option Reader :=
  match r.next, t with
  | .value, t => Reader.begin r.stack t
  | .firstItem, .closeBracket => some ⟨r.stack, .complete (.array [])⟩
  | .firstItem, t => Reader.begin (.array [] :: r.stack) t
  | .firstKey _, .closeBrace => some ⟨r.stack, .complete (.object [])⟩
  | .firstKey members, .string key => some ⟨r.stack, .colon members key⟩
  | .nextKey members, .string key => some ⟨r.stack, .colon members key⟩
  | .colon members key, .colon => some ⟨.object members key :: r.stack, .value⟩
  | .complete v, .comma =>
    match r.stack with
    | .array items :: stack => some ⟨.array (v :: items) :: stack, .value⟩
    | .object members key :: stack => some ⟨stack, .nextKey ((key, v) :: members)⟩
    | [] => none
  | .complete v, .closeBracket =>
    match r.stack with
    | .array items :: stack => some ⟨stack, .complete (.array (v :: items).reverse)⟩
    | _ => none
  | .complete v, .closeBrace =>
    match r.stack with
    | .object members key :: stack =>
      some ⟨stack, .complete (.object ((key, v) :: members).reverse)⟩
    | _ => none
  | _, _ => none

/-- The value read, when nothing is left open. -/
def Reader.result? (r : Reader) : Option Value :=
  match r.stack, r.next with
  | [], .complete v => some v
  | _, _ => none

def ofTokens? (tokens : List Token) : Option Value :=
  (tokens.foldlM Reader.step Reader.start).bind Reader.result?

/-- The value that a text spells, if it spells exactly one. -/
def parse? (text : String) : Option Value :=
  (tokens? text.toList).bind ofTokens?

end TableDesk.Json
