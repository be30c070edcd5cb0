import TableDesk.Screen.Paragraph
import TableDesk.Session
import TableDesk.View.Palette

/-!
The list of tables on the screen. Each line of the list becomes one row, which tells what it shows
and whether the cursor is on it. If there are more rows than the area has, the rows before the
cursor are scrolled away until the cursor is on the last row of the area.

The row of a group tells how many rows its tables have. A program with overflow checks stops where
that sum is too large, and then the list is not drawn.
-/

namespace TableDesk

open Screen

inductive RowContent where
  | group (unfolded : Bool) (label : String) (summary : String)
  | table (checked : Bool) (name : String) (size : String)
  deriving DecidableEq, Repr

structure ListRow where
  content : RowContent
  underCursor : Bool
  deriving DecidableEq, Repr

namespace ListRow

def spans (p : Palette) (row : ListRow) : List Span :=
  let unlessCursor (style : Style) := if row.underCursor then p.cursorStyle else style
  let dim := unlessCursor (.fg p.muted)
  match row.content with
  | .group unfolded label summary =>
    let style := unlessCursor (if unfolded then p.unfoldedStyle else .fg p.text)
    [.styled (if unfolded then " ▾ " else " ▸ ") style, .styled label style,
      .styled s!"  ({summary})" dim]
  | .table checked name size =>
    let style := unlessCursor (.fg p.text)
    [.raw "     ",
      .styled (if checked then "[x]" else "[ ]")
        (unlessCursor (.fg (if checked then p.checked else p.muted))),
      .styled " " style, .styled name style, .styled s!"  {size}" dim]

end ListRow

/-- A list is gone through to its end if each element has an answer, be it that there is nothing. -/
theorem filterMapM_eq_some_iff {α β : Type} {f : α → Option (Option β)} {l : List α} {out : List β} :
    l.filterMapM f = some out ↔
      (∀ a ∈ l, (f a).isSome = true) ∧ l.filterMap (fun a => (f a).join) = out := by
  induction l generalizing out with
  | nil => simp [Option.pure_def]
  | cons a rest ih =>
    rw [List.filterMapM_cons, List.forall_mem_cons]
    rcases ha : f a with _ | _ | b
    · simp
    · simpa [ha] using ih
    · have hjoin : (f a).join = some b := congrArg Option.join ha
      simp only [List.filterMap_cons, hjoin, Option.bind_eq_bind, Option.bind_some, Option.bind_eq_some_iff, ih]
      constructor
      · rintro ⟨_, ⟨hrest, rfl⟩, hout⟩
        exact ⟨⟨rfl, hrest⟩, Option.some.inj hout⟩
      · rintro ⟨⟨-, hrest⟩, rfl⟩
        exact ⟨_, ⟨hrest, rfl⟩, rfl⟩

namespace Session

variable {ρ : Type}

def groupContent (s : Session ρ) (g : Group) (total : UInt64) : RowContent :=
  .group g.row.marker.isSome (s.pluginLabel g.plugin)
    (s.display .tablesPluginSummary [toString g.tables.length, toString total])

def tableContent (s : Session ρ) (t : Table) : RowContent :=
  .table (s.page.isChecked t.name) t.name (s.rowsLabel t.rows)

/-- What the row of a line of the list shows, if there is something to show. There is no answer at
all if a sum stops the program. -/
def rowContent (overflow : Overflow) (s : Session ρ) : Line → Option (Option RowContent)
  | .group group =>
    match s.page.groups[group]? with
    | some g => (g.totalRows? overflow).map fun total => some (s.groupContent g total)
    | none => some none
  | .table group table => some ((s.page.table? group table).map s.tableContent)

/-- The rows of the list, `none` if a sum stops the program. -/
def listRows (overflow : Overflow) (s : Session ρ) : Option (List ListRow) :=
  s.page.lines.zipIdx.filterMapM fun (line, position) =>
    (s.rowContent overflow line).map fun content => content.map (⟨·, position == s.page.cursor⟩)

theorem isSome_rowContent_wraps (s : Session ρ) (line : Line) :
    (s.rowContent .wraps line).isSome = true := by
  cases line with
  | group group =>
    rw [rowContent]
    cases s.page.groups[group]? with
    | some g => simp only [Group.totalRows?_wraps, Option.map_some, Option.isSome_some]
    | none => rfl
  | table group table => rfl

/-- In a release the list is always built. -/
theorem isSome_listRows_wraps (s : Session ρ) : (s.listRows .wraps).isSome = true := by
  refine Option.isSome_iff_exists.2 ⟨_, filterMapM_eq_some_iff.2 ⟨fun (line, _) _ => ?_, rfl⟩⟩
  rw [Option.isSome_map, isSome_rowContent_wraps]

end Session

/-! ### Scrolling -/

/-- The first row that is visible if a given row is to be visible too. -/
def firstVisible (height cursor : Nat) : Nat := cursor + 1 - height

/-- The rows that are visible, with a cursor past the end taken as the last row. -/
def visibleRows {α : Type} (height cursor : Nat) (rows : List α) : List α :=
  (rows.drop (firstVisible height (min cursor (rows.length - 1)))).take height

/-! ### Drawing -/

def drawRows (p : Palette) (area : Rect) : (y : Nat) → List ListRow → Canvas → Canvas
  | _, [], canvas => canvas
  | y, row :: rest, canvas =>
    drawRows p area (y + 1) rest
      ((StyledLine.ofSpans (row.spans p)).draw { area with y, height := 1 } canvas)

namespace Session

variable {ρ : Type}

/-- What is drawn instead of an empty list. -/
def emptyNotice (s : Session ρ) : Paragraph where
  lines := [.raw "", .styled s!"  {s.display .tablesEmpty []}" (.fg .gray)]
  style := .plain
  alignment := .left

/-- Draws the list of tables in an area, unless a sum stops the program. -/
def drawList (overflow : Overflow) (s : Session ρ) (p : Palette) (area : Rect) (canvas : Canvas) :
    Option Canvas :=
  if s.page.isEmpty then some (s.emptyNotice.draw area canvas)
  else
    (s.listRows overflow).map fun rows =>
      if area.isEmpty then canvas
      else drawRows p area area.y (visibleRows area.height s.page.cursor rows) canvas

theorem isSome_drawList_wraps (s : Session ρ) (p : Palette) (area : Rect) (canvas : Canvas) :
    (s.drawList .wraps p area canvas).isSome = true := by
  unfold drawList
  split
  · rfl
  · rw [Option.isSome_map, isSome_listRows_wraps]

end Session

end TableDesk
