import TableDesk.Fault

/-!
Failures that end an operation on files: what went wrong, and what was being done at the time.
-/

namespace TableDesk

/-- What went wrong: a fault, a JSON text of the wrong form, or a refusal by the system. -/
inductive Cause where
  | fault (fault : Fault)
  | malformed (detail : String)
  | system (detail : String)
  deriving DecidableEq, Repr

def Cause.message : Cause → String
  | .fault f => f.message
  | .malformed detail | .system detail => detail

/-- A cause, possibly with what was being done. -/
structure Failure where
  context : Option String
  cause : Cause
  deriving DecidableEq, Repr

namespace Failure

def ofFault (f : Fault) : Failure := ⟨none, .fault f⟩

/-- What was being done, or else what went wrong. -/
def brief (f : Failure) : String := f.context.getD f.cause.message

def full (f : Failure) : String :=
  match f.context with
  | some context => s!"{context}: {f.cause.message}"
  | none => f.cause.message

/-- The fault that must end the program, if it is one. -/
def fatal? (f : Failure) : Option Fault :=
  match f.cause with
  | .fault e => if e.isFatal then some e else none
  | _ => none

end Failure

end TableDesk
