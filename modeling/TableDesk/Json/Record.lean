import TableDesk.Json.Value

/-!
Records with known fields, written as an object or as an array of the fields in order. Fields
without a meaning are ignored, a known field that is given twice is refused.
-/

namespace TableDesk.Json

/-- The value of a known field, `none` when it is missing; a field given twice is refused. -/
def field? (members : List (Text × Value)) (name : String) : Option (Option Value) :=
  match members.filter (fun m => m.1 = some name) with
  | [] => some none
  | [m] => some (some m.2)
  | _ => none

/-- The values of the known fields of an object, in the order of the names. A member whose name is
no text is refused. -/
def objectFields? (names : List String) (members : List (Text × Value)) :
    Option (List (Option Value)) :=
  if members.all (·.1.isSome) then names.mapM (field? members) else none

/-- The values of the known fields of a record, in the order of the names. An array gives the first
fields and at most all of them. -/
def recordFields? (names : List String) : Value → Option (List (Option Value))
  | .object members => objectFields? names members
  | .array items =>
    if items.length ≤ names.length then
      some (items.map some ++ List.replicate (names.length - items.length) none)
    else none
  | _ => none

def required {α : Type} (read : Value → Option α) (field : Option Value) : Option α :=
  field.bind read

def withDefault {α : Type} (read : Value → Option α) (default : α) : Option Value → Option α
  | some v => read v
  | none => some default

end TableDesk.Json
