import TableDesk.Form
import TableDesk.Table.Group
import TableDesk.Table.Deletion

/-!
The page that lists tables. The list shows the row of every group and, below it, the tables of the
group while it is unfolded. Every table is an item of the form that asks for deletions. A cursor
stands on one line of the list.
-/

namespace TableDesk

/-- A line of the list: the row of a group, or a table of a group, by position. -/
inductive Line where
  | group (group : Nat)
  | table (group table : Nat)
  deriving DecidableEq, Repr

/-- The page: the groups, the form with one item for each table, and the cursor as a position in
the list. -/
structure Page where
  groups : List Group
  form : Form
  cursor : Nat
  deriving DecidableEq, Repr

namespace Page

/-- The page before any tables are known. -/
def empty : Page := ⟨[], .new TableDeletion.formId TableDeletion.deleteAction, 0⟩

/-! ### What is shown -/

def groupLines (position : Nat) (g : Group) : List Line :=
  .group position ::
    if g.row.selected then (List.range g.tables.length).map (.table position) else []

/-- The lines of some groups, the first of which has a given position. -/
def linesFrom (position : Nat) : List Group → List Line
  | [] => []
  | g :: rest => groupLines position g ++ linesFrom (position + 1) rest

def lines (page : Page) : List Line := linesFrom 0 page.groups

def current (page : Page) : Option Line := page.lines[page.cursor]?

def table? (page : Page) (group table : Nat) : Option Table :=
  page.groups[group]?.bind (·.tables[table]?)

def isChecked (page : Page) (name : String) : Bool := (page.form.check? name).getD false

def checkedCount (page : Page) : Nat := page.form.checkedItems.length

def isEmpty (page : Page) : Bool := page.groups.isEmpty

/-! ### Tables -/

/-- The plugins whose groups are unfolded. -/
def unfolded (page : Page) : List (Option String) :=
  (page.groups.filter (·.row.selected)).map (·.plugin)

/-- The page with a cursor that stands on the list again, on the last line if it was past it. -/
def clampCursor (page : Page) : Page :=
  if page.cursor ≥ page.lines.length then { page with cursor := page.lines.length - 1 } else page

/-- The item of a table; it is checked if its name is among the given ones. -/
def itemOf (checked : List String) (t : Table) : Item := ⟨t.name, checked.contains t.name⟩

/-- The page with other tables. Plugins that stay are still unfolded, names that stay are still
checked. -/
def setTables (page : Page) (tables : List Table) : Page :=
  let unfolded := page.unfolded
  let checked := page.form.checkedValues
  let groups := (Group.ofTables tables).map fun g =>
    if unfolded.contains g.plugin then { g with row := g.row.activate } else g
  let items := (groups.flatMap (·.tables)).map (itemOf checked)
  clampCursor { page with groups, form := { page.form with items } }

/-! ### The cursor -/

def selectPrevious (page : Page) : Page := { page with cursor := page.cursor - 1 }

/-- One line down, unless the cursor is on the last line. -/
def selectNext (page : Page) : Page :=
  if page.cursor + 1 < page.lines.length then { page with cursor := page.cursor + 1 } else page

def selectFirst (page : Page) : Page := { page with cursor := 0 }

def selectLast (page : Page) : Page := { page with cursor := page.lines.length - 1 }

/-! ### Unfolding and checking -/

/-- Turns the item of a table around and tells its new state. -/
def toggleTable (page : Page) (group table : Nat) : Option Bool × Page :=
  match page.table? group table with
  | none => (none, page)
  | some t =>
    let form := page.form.toggle t.name
    (form.check? t.name, { page with form })

/-- Turns the row of a group around and tells its new state. -/
def toggleGroup (page : Page) (group : Nat) : Option Bool × Page :=
  match page.groups[group]? with
  | none => (none, page)
  | some g =>
    let row := g.row.activate
    (some row.selected,
      clampCursor { page with groups := page.groups.set group { g with row } })

/-- Activates the line under the cursor: folds or unfolds a group, checks or unchecks a table. -/
def activateCurrent (page : Page) : Option Bool × Page :=
  match page.current with
  | none => (none, page)
  | some (.group group) => page.toggleGroup group
  | some (.table group table) => page.toggleTable group table

/-- Checks all tables of a group, or unchecks them if all are checked. -/
def checkGroup (page : Page) (group : Nat) : Option Bool × Page :=
  match page.groups[group]? with
  | none => (none, page)
  | some g =>
    let names := g.tables.map (·.name)
    let check := !names.all page.isChecked
    let form := names.foldl (fun form name => form.setChecked name check) page.form
    (some check, { page with form })

/-- Checks what the line under the cursor stands for: a table, or all tables of a group. -/
def checkCurrent (page : Page) : Option Bool × Page :=
  match page.current with
  | none => (none, page)
  | some (.group group) => page.checkGroup group
  | some (.table group table) => page.toggleTable group table

def clearChecked (page : Page) : Page := { page with form := page.form.clearChecked }

end Page

end TableDesk
