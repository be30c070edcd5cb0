import TableDesk.Log
import TableDesk.Log.Pattern
import TableDesk.Text.Alphanumeric
import TableDesk.Text.Blank
import TableDesk.Text.Bytes
import TableDesk.Text.Numeral

/-!
Which records reach the log. A filter is a list of directives separated by commas, each a level, a
target, or both as `target=level`. Behind the target a directive may name, in brackets, a span and a
field in braces. Of the directives that cover a record, the most specific one decides; a record that
no directive covers is left out.
-/

namespace TableDesk.Log

/-- Lets the records whose target begins with `target`, and which carry the field if one is named,
through up to a verbosity. A directive that is bound to a span or to the value of a field decides
about no record, since no record is written inside a span. -/
structure Directive where
  target : String
  field : Option String
  bound : Bool
  verbosity : Nat
  deriving DecidableEq, Repr

def Directive.ofVerbosity (verbosity : Nat) : Directive :=
  { target := "", field := none, bound := false, verbosity }

def verbosityOfName? (name : String) : Option Nat :=
  if name = "off" then some 0
  else if name = "error" then some 1
  else if name = "warn" then some 2
  else if name = "info" then some 3
  else if name = "debug" then some 4
  else if name = "trace" then some 5
  else none

/-- The verbosity of a level, named in letters of either case or given by its number. -/
def verbosity? (text : String) : Option Nat :=
  match Text.readNumeral text.toList with
  | some n => if n ≤ 5 then some n else none
  | none => verbosityOfName? text.toLower

def startsDirective (c : Char) : Bool :=
  Text.isAlphanumeric c || c = '_' || c = '-' || c = ':' || c = '['

/-! ### Reading a directive

The marks of a directive are found in the text without the white space at its ends. Its parts are
then cut from the text as it is written, `full`, at the numbers of bytes in front of the marks.
White space at the end so becomes part of the last name, and white space at the start moves every
part. -/

/-- The verbosity that stands behind an equals sign; all of it if nothing stands there. -/
def verbosityAfter? : List Char → Option Nat
  | [] => some 5
  | level => verbosity? (String.ofList level)

/-- The verbosity that follows a closing bracket behind some bytes. -/
def verbosityFrom? (full : List Char) (start : Nat) : List Char → Option Nat
  | [] => some 5
  | '=' :: _ => verbosityAfter? (Text.dropBytes (start + 1) full)
  | _ => none

/-- The name of a field, and whether a value is demanded of it. -/
def fieldOf? (text : List Char) : Option (String × Bool) :=
  let name := text.takeWhile (· ≠ '=')
  match text.drop name.length with
  | [] => if name = [] then none else some (String.ofList name, false)
  | _ :: value =>
    if isPattern (value.takeWhile (· ≠ '=')) then some (String.ofList name, true) else none

/-- Reads a field and what follows it, from behind the brace on. -/
def Directive.readField? (full : List Char) (target : String) (inSpan : Bool) (start : Nat)
    (rest : List Char) : Option Directive := do
  let name := rest.takeWhile (· ≠ '\x7d')
  let stop := start + Text.byteLength name
  match rest.drop name.length with
  | _ :: ']' :: rest =>
    let (field, hasValue) ← fieldOf? (Text.bytesBetween start stop full)
    let verbosity ← verbosityFrom? full (stop + 2) rest
    return { target, field := some field, bound := inSpan || hasValue, verbosity }
  | _ => none

/-- Reads a span, possibly with a field, and what follows it, from behind the bracket on. -/
def Directive.readSpan? (full : List Char) (target : String) (start : Nat) (rest : List Char) :
    Option Directive :=
  let name := rest.takeWhile fun c => c ≠ ']' && c ≠ '\x7b'
  let stop := start + Text.byteLength name
  match rest.drop name.length with
  | [] => none
  | ']' :: rest =>
    (verbosityFrom? full (stop + 1) rest).map fun verbosity =>
      { target, field := none, bound := true, verbosity }
  | _ :: rest => readField? full target (Text.bytesBetween start stop full ≠ []) (stop + 1) rest

/-- Reads one directive. A target alone lets everything through. -/
def Directive.read? (text : String) : Option Directive :=
  let full := text.toList
  let chars := Text.trim full
  if !chars.head?.any startsDirective then none
  else
    let name := chars.takeWhile fun c => c ≠ '=' && c ≠ '['
    let stop := Text.byteLength name
    let target := String.ofList (Text.takeBytes stop full)
    match chars.drop name.length with
    | [] =>
      match verbosity? text with
      | some verbosity => some (.ofVerbosity verbosity)
      | none => some { Directive.ofVerbosity 5 with target := text }
    | '[' :: rest => readSpan? full target (stop + 1) rest
    | _ =>
      (verbosityAfter? (Text.dropBytes (stop + 1) full)).map fun verbosity =>
        { Directive.ofVerbosity verbosity with target }

/-! ### Filters -/

/-- The directives of a filter; a filter without any lets errors through. -/
abbrev Filter := List Directive

/-- Reads a filter; one wrong directive makes the whole filter wrong. -/
def Filter.read? (text : String) : Option Filter := do
  let parts := (text.splitOn ",").filter (· ≠ "")
  let directives ← parts.mapM Directive.read?
  return if directives.isEmpty then [.ofVerbosity 1] else directives

/-- The filter in force: a wrong or missing one is replaced by the level `info`. -/
def Filter.ofSetting (setting : Option String) : Filter :=
  (setting.bind Filter.read?).getD [.ofVerbosity 3]

def Directive.covers (d : Directive) (target : String) : Bool :=
  !d.bound && target.startsWith d.target && d.field.all (· ∈ fieldNames)

/-- Whether one of two directives that cover a record is at least as specific as the other. The
longer target counts first, then a field, then the later name of a field. -/
def Directive.asSpecificAs (d other : Directive) : Bool :=
  if d.target.length ≠ other.target.length then other.target.length < d.target.length
  else
    match d.field, other.field with
    | some name, some otherName => otherName ≤ name
    | none, some _ => false
    | _, none => true

/-- The directive that decides about a target: the most specific one, of equals the last. -/
def Filter.decisive? (filter : Filter) (target : String) : Option Directive :=
  (filter.filter (·.covers target)).foldl (fun best d =>
    if best.all d.asSpecificAs then some d else best) none

def Filter.accepts (filter : Filter) (r : Record) : Bool :=
  match filter.decisive? r.source.target with
  | some d => r.level.rank ≤ d.verbosity
  | none => false

end TableDesk.Log
