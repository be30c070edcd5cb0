import TableDesk.Json.Record

/-!
A named message template and its JSON form.
-/

namespace TableDesk.Message

structure Entry where
  key : String
  template : String
  deriving DecidableEq, Repr

namespace Entry

def toJson (entry : Entry) : Json.Value :=
  .object [(some "key", .text entry.key), (some "template", .text entry.template)]

def ofValue? (v : Json.Value) : Option Entry := do
  match ← Json.recordFields? ["key", "template"] v with
  | [key, template] =>
    return ⟨← Json.required Json.Value.text? key, ← Json.required Json.Value.text? template⟩
  | _ => none

end Entry

end TableDesk.Message
