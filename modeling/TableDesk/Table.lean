import TableDesk.Json.Record

/-!
Database tables as the administration page lists them, and their JSON form.
-/

namespace TableDesk

/-- A listed table: the plugin that owns it if that is known, its name, and its number of rows if
that could be read. -/
structure Table where
  plugin : Option String
  name : String
  rows : Option UInt64
  deriving DecidableEq, Repr

namespace Table

/-- The members of the JSON form. What is unknown is left out. -/
def members (t : Table) : List (Json.Text × Json.Value) :=
  (t.plugin.map fun p => (some "plugin", Json.Value.text p)).toList ++
    [(some "table", Json.Value.text t.name)] ++
    (t.rows.map fun n => (some "rows", Json.Value.nat n.toNat)).toList

def toJson (t : Table) : Json.Value := .object t.members

/-- The table that a value describes. What is not given, or null, is unknown. -/
def ofValue? (v : Json.Value) : Option Table := do
  match ← Json.recordFields? ["plugin", "table", "rows"] v with
  | [plugin, name, rows] =>
    return {
      plugin := ← Json.withDefault (Json.Value.nullable? Json.Value.text?) none plugin
      name := ← Json.required Json.Value.text? name
      rows := ← Json.withDefault (Json.Value.nullable? Json.Value.word?) none rows }
  | _ => none

def listToJson (tables : List Table) : Json.Value := .array (tables.map toJson)

def listOfValue? (v : Json.Value) : Option (List Table) := do
  (← v.array?).mapM ofValue?

end Table

end TableDesk
