import TableDesk.Disk
import TableDesk.Fault
import TableDesk.Json.Printer
import TableDesk.Json.Reader
import TableDesk.Log
import TableDesk.Table.Sample

/-!
Stores of tables. A deletion names tables; it succeeds as a whole or fails as a whole. One
store lives in memory, the other keeps its tables in a JSON file and holds a copy that changes
only after the file has been written.
-/

namespace TableDesk

/-- A place that keeps tables, lists them and deletes them. -/
class TableStore (ρ : Type) where
  /-- All tables. -/
  tables : ρ → Except Fault (List Table)
  /-- Deletes the named tables. The store and the disk may change also on failure. -/
  delete : List String → ρ → Disk → Except Fault Unit × ρ × Disk

/-- The tables that are left after a deletion. The first name without a table makes it fail. -/
def remaining (tables : List Table) (names : List String) : Except Fault (List Table) :=
  match names.find? fun name => !tables.any (·.name == name) with
  | some missing => .error (.tableNotFound missing)
  | none => .ok (tables.filter fun t => !names.contains t.name)

structure MemoryTables where
  tables : List Table
  deriving Repr

instance : TableStore MemoryTables where
  tables m := .ok m.tables
  delete names m disk :=
    match remaining m.tables names with
    | .ok rest => (.ok (), ⟨rest⟩, disk)
    | .error e => (.error e, m, disk)

/-- Tables kept in a JSON file, with a copy of what the file holds. -/
structure FileTables where
  path : Path
  copy : List Table
  deriving Repr

namespace FileTables

def parse (content : String) : Except Fault (List Table) :=
  match (Json.parse? content).bind Table.listOfValue? with
  | some tables => .ok tables
  | none => .error (.serialization "expected a list of tables")

def print (tables : List Table) : String := (Table.listToJson tables).pretty

/-- The tables in the file at a path, `none` if there is no file. -/
def read (path : Path) (disk : Disk) : Except Fault (Option (List Table)) :=
  if disk.contains path then
    match disk.read path with
    | .error e => .error (.storage e)
    | .ok content => (parse content).map some
  else .ok none

/-- Opens the file at a path. Where there is none, the sample tables are taken. -/
def load (path : Path) (disk : Disk) : Except Fault FileTables × List Log.Record :=
  match read path disk with
  | .error e => (.error e, [])
  | .ok none =>
    (.ok ⟨path, sampleTables⟩,
      [⟨.info, .tableFile, s!"No table catalog at {path}, using sample data"⟩])
  | .ok (some tables) =>
    (.ok ⟨path, tables⟩,
      [⟨.info, .tableFile, s!"Loaded {tables.length} tables from {path}"⟩])

/-- Writes some tables to the file at a path, making its folder first. -/
def save (path : Path) (tables : List Table) (disk : Disk) : Except Fault Unit × Disk :=
  match disk.makeParent path with
  | (.error e, disk) => (.error (.storage e), disk)
  | (.ok (), disk) =>
    match disk.write path (print tables) with
    | .error e => (.error (.storage e), disk)
    | .ok disk => (.ok (), disk)

/-- Deletes tables from the file and then from the copy. -/
def delete (names : List String) (f : FileTables) (disk : Disk) :
    Except Fault Unit × FileTables × Disk :=
  match remaining f.copy names with
  | .error e => (.error e, f, disk)
  | .ok rest =>
    match save f.path rest disk with
    | (.error e, disk) => (.error e, f, disk)
    | (.ok (), disk) => (.ok (), { f with copy := rest }, disk)

end FileTables

instance : TableStore FileTables where
  tables f := .ok f.copy
  delete := FileTables.delete

end TableDesk
