/-!
Which texts are patterns for the value of a field: regular expressions without counted repetitions,
and numbers with a plus sign. A pattern is only checked here, since no record is tested against one.
-/

namespace TableDesk.Log

/-- The text behind a class of characters. Inside a class a bracket opens a further one, and a
closing bracket that comes first stands for itself; `depth` classes are open. -/
def afterClass : (depth : Nat) → (first : Bool) → List Char → Option (List Char)
  | depth, _, '\\' :: _ :: rest => afterClass depth false rest
  | depth, _, '[' :: '^' :: rest => afterClass (depth + 1) true rest
  | depth, _, '[' :: rest => afterClass (depth + 1) true rest
  | depth, false, ']' :: rest => if depth ≤ 1 then some rest else afterClass (depth - 1) false rest
  | depth, _, _ :: rest => afterClass depth false rest
  | _, _, [] => none

theorem length_afterClass_lt {depth : Nat} {first : Bool} {text rest : List Char}
    (h : afterClass depth first text = some rest) : rest.length < text.length := by
  fun_induction afterClass depth first text <;> grind

/-- Whether a text ends a regular expression inside a number of open groups. `item` tells whether
something stands before it that can be repeated. -/
def endsPattern (groups : Nat) (item : Bool) : List Char → Bool
  | [] => groups = 0
  | '\\' :: rest =>
    match rest with
    | [] => false
    | _ :: rest => endsPattern groups true rest
  | '(' :: '?' :: ':' :: rest => endsPattern (groups + 1) false rest
  | '(' :: rest => endsPattern (groups + 1) false rest
  | ')' :: rest => groups ≠ 0 && endsPattern (groups - 1) true rest
  | '|' :: rest => endsPattern groups false rest
  | '[' :: rest =>
    match _h : afterClass 0 false ('[' :: rest) with
    | some rest => endsPattern groups true rest
    | none => false
  | c :: rest =>
    if c = '*' ∨ c = '+' ∨ c = '?' then item && endsPattern groups true rest
    else c ≠ '\x7b' && endsPattern groups true rest
termination_by text => text.length
decreasing_by
  all_goals simp_wf
  all_goals try omega
  all_goals
    have := length_afterClass_lt _h
    simp at this
    omega

/-- A decimal number without a sign: digits with a point in or around them, and an exponent. -/
def isDecimal (text : List Char) : Bool :=
  let mantissa := text.takeWhile fun c => c ≠ 'e' && c ≠ 'E'
  let whole := mantissa.takeWhile (·.isDigit)
  let fraction := (mantissa.drop whole.length).drop 1
  let exponent := match (text.drop mantissa.length).drop 1 with
    | '+' :: digits | '-' :: digits => digits
    | digits => digits
  (mantissa.drop whole.length).head?.all (· = '.') && (whole ++ fraction).any (·.isDigit) &&
    fraction.all (·.isDigit) && exponent.all (·.isDigit) &&
    (mantissa.length = text.length || exponent ≠ [])

def isPattern (text : List Char) : Bool :=
  endsPattern 0 false text ||
    match text with
    | '+' :: number => isDecimal number
    | _ => false

end TableDesk.Log
