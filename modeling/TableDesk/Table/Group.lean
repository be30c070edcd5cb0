import TableDesk.Table

/-!
Rows that can be selected, and tables grouped under the plugin that owns them. A group's row shows
whether the group is unfolded.

The rows of the tables of a group are added up in sixty-four bits. Whether a sum that does not fit
stops the program or wraps around is settled when the program is built: with overflow checks it
stops, and without them, as in a release, it wraps around.
-/

namespace TableDesk

/-- A row of a list, addressed by its position alone. -/
structure Row where
  selected : Bool
  deriving DecidableEq, Repr

namespace Row

def fresh : Row := ⟨false⟩

def marker (row : Row) : Option String :=
  if row.selected then some "ao-plugin-selected" else none

/-- The row after an activation, which turns its selection around. -/
def activate (row : Row) : Row := ⟨!row.selected⟩

@[simp] theorem activate_activate (row : Row) : row.activate.activate = row := by
  simp [activate]

end Row

/-- What becomes of a sum that does not fit into its bits. -/
inductive Overflow where
  | stops
  | wraps
  deriving DecidableEq, Repr

/-- The sum of two numbers, `none` if it stops the program. -/
def Overflow.add? (overflow : Overflow) (m n : UInt64) : Option UInt64 :=
  match overflow with
  | .stops => if m.toNat + n.toNat < UInt64.size then some (m + n) else none
  | .wraps => some (m + n)

/-- The tables of one plugin, or of unknown plugins, under one row. -/
structure Group where
  row : Row
  plugin : Option String
  tables : List Table
  deriving DecidableEq, Repr

namespace Group

def knownRows (g : Group) : List UInt64 := g.tables.filterMap (·.rows)

/-- The sum of the known numbers of rows, `none` if it stops the program. -/
def totalRows? (overflow : Overflow) (g : Group) : Option UInt64 :=
  g.knownRows.foldlM overflow.add? 0

theorem totalRows?_wraps (g : Group) : g.totalRows? .wraps = some (g.knownRows.foldl (· + ·) 0) := by
  unfold totalRows?
  generalize (0 : UInt64) = total
  induction g.knownRows generalizing total with
  | nil => rfl
  | cons rows rest ih => exact ih (total + rows)

/-- The sum as a release gives it. -/
def totalRows (g : Group) : Nat :=
  ((g.totalRows? .wraps).get (by rw [totalRows?_wraps]; rfl)).toNat

/-- Adds a table of a known plugin: to the group of the plugin, or as a new group at the end. -/
def addKnown (plugin : String) (t : Table) : List Group → List Group
  | [] => [⟨.fresh, some plugin, [t]⟩]
  | g :: rest =>
    if g.plugin = some plugin then { g with tables := g.tables ++ [t] } :: rest
    else g :: addKnown plugin t rest

def addTable (groups : List Group) (t : Table) : List Group :=
  match t.plugin with
  | some plugin => addKnown plugin t groups
  | none => groups

/-- The groups of the tables whose plugin is known, in the order in which the plugins appear. -/
def known (tables : List Table) : List Group := tables.foldl addTable []

def unknown (tables : List Table) : List Group :=
  match tables.filter (·.plugin.isNone) with
  | [] => []
  | unowned => [⟨.fresh, none, unowned⟩]

/-- The tables grouped by plugin. The tables of unknown plugins come last. -/
def ofTables (tables : List Table) : List Group :=
  known tables ++ unknown tables

end Group

end TableDesk
