import TableDesk.Json.Value

/-!
The causes of failure that the administration of tables knows, with the one wording of each.
-/

namespace TableDesk

/-- A cause of failure. Its text names what was missing, refused or unreadable. -/
inductive Fault where
  | missingMessage (key : String)
  | tableNotFound (name : String)
  | submitFailed (reason : String)
  | serialization (detail : String)
  | storage (detail : String)
  deriving DecidableEq, Repr, Inhabited

namespace Fault

def message : Fault → String
  | .missingMessage key => s!"Missing message key: {key}"
  | .tableNotFound name => s!"Table not found: {name}"
  | .submitFailed reason => s!"Submit failed: {reason}"
  | .serialization detail => s!"Serialization error: {detail}"
  | .storage detail => s!"Storage error: {detail}"

def code : Fault → String
  | .missingMessage _ => "MissingMessageKey"
  | .tableNotFound _ => "TableNotFound"
  | .submitFailed _ => "SubmitFailed"
  | .serialization _ => "SerializationError"
  | .storage _ => "StorageError"

def details : Fault → String
  | .missingMessage text | .tableNotFound text | .submitFailed text | .serialization text
  | .storage text => text

/-- Whether the fault is part of normal use: the table was deleted by someone else meanwhile. -/
def isExpected : Fault → Bool
  | .tableNotFound _ => true
  | _ => false

/-- Whether the fault must end the program: a message that the program was built with is missing. -/
def isFatal : Fault → Bool
  | .missingMessage _ => true
  | _ => false

def toJson (f : Fault) : Json.Value :=
  .object [(some "code", .text f.code), (some "details", .text f.details)]

end Fault

end TableDesk
