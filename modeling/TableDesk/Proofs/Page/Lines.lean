import TableDesk.Proofs.Group
import TableDesk.Proofs.Page.Run

/-!
The lines of the list and the cursor on them. A line has the position of its group, and going down takes the cursor
as far as there are lines. While every group is folded the lines are the rows of the groups, and the cursor is the
position of a group.
-/

namespace TableDesk.Page

theorem clampCursor_of_lt {p : Page} (h : p.cursor < p.lines.length) : p.clampCursor = p := by
  unfold clampCursor
  rw [if_neg (by omega)]

theorem selectNext_eq {p : Page} (h : p.cursor ≤ p.lines.length - 1) :
    p.selectNext = { p with cursor := min (p.cursor + 1) (p.lines.length - 1) } := by
  unfold selectNext
  split
  next hlt => rw [Nat.min_eq_left (by omega)]
  next hlast =>
    have hcursor : min (p.cursor + 1) (p.lines.length - 1) = p.cursor := by omega
    rw [hcursor]

/-- Going down moves the cursor by as many lines as there are left. -/
theorem run_replicate_selectNext (n : Nat) {p : Page} (h : p.cursor ≤ p.lines.length - 1) :
    run (List.replicate n .selectNext) p = { p with cursor := min (p.cursor + n) (p.lines.length - 1) } := by
  induction n generalizing p with
  | zero => rw [List.replicate_zero, run_nil, Nat.add_zero, Nat.min_eq_left h]
  | succ n ih =>
    rw [List.replicate_succ, run_cons, Op.run, selectNext_eq h, ih (Nat.min_le_right _ _)]
    simp only [Page.mk.injEq, true_and]
    show min (min (p.cursor + 1) (p.lines.length - 1) + n) (p.lines.length - 1) = _
    omega

/-! ### Lines and their groups -/

theorem linesFrom_eq_flatMap (position : Nat) (groups : List Group) :
    linesFrom position groups = (groups.zipIdx position).flatMap fun entry => groupLines entry.2 entry.1 := by
  induction groups generalizing position with
  | nil => rfl
  | cons g rest ih => rw [linesFrom, ih, List.zipIdx_cons, List.flatMap_cons]

/-- The lines are those of the groups, each by the position of its group. -/
theorem mem_linesFrom {position : Nat} {groups : List Group} {line : Line} :
    line ∈ linesFrom position groups ↔
      ∃ below g, groups[below]? = some g ∧ line ∈ groupLines (position + below) g := by
  rw [linesFrom_eq_flatMap, List.mem_flatMap]
  constructor
  · rintro ⟨⟨g, group⟩, hg, hline⟩
    obtain ⟨hle, hget⟩ := List.mk_mem_zipIdx_iff_le_and_getElem?_sub.1 hg
    exact ⟨group - position, g, hget, by rwa [Nat.add_sub_cancel' hle]⟩
  · rintro ⟨below, g, hget, hline⟩
    refine ⟨(g, position + below), List.mk_mem_zipIdx_iff_le_and_getElem?_sub.2 ⟨Nat.le_add_right _ _, ?_⟩, hline⟩
    rwa [Nat.add_sub_cancel_left]

theorem group_mem_groupLines {position group : Nat} {g : Group} :
    .group group ∈ groupLines position g ↔ group = position := by
  cases hs : g.row.selected <;> simp [groupLines, hs]

theorem table_mem_groupLines {position group table : Nat} {g : Group} :
    .table group table ∈ groupLines position g ↔
      group = position ∧ g.row.selected = true ∧ table < g.tables.length := by
  cases hs : g.row.selected with
  | false => simp [groupLines, hs]
  | true =>
    simp only [groupLines, hs, if_true, List.mem_cons, reduceCtorEq, false_or, List.mem_map, List.mem_range,
      Line.table.injEq, true_and]
    constructor
    · rintro ⟨_, hlt, rfl, rfl⟩
      exact ⟨rfl, hlt⟩
    · rintro ⟨rfl, hlt⟩
      exact ⟨table, hlt, rfl, rfl⟩

/-- Every group has its line, and no line is that of another one. -/
theorem group_mem_lines {p : Page} {group : Nat} : .group group ∈ p.lines ↔ ∃ g, p.groups[group]? = some g := by
  simp [lines, mem_linesFrom, group_mem_groupLines]

/-- Every table of an unfolded group has its line, and no line is that of another one. -/
theorem table_mem_lines {p : Page} {group table : Nat} :
    .table group table ∈ p.lines ↔
      ∃ g t, p.groups[group]? = some g ∧ g.row.selected = true ∧ p.table? group table = some t := by
  rw [lines, mem_linesFrom]
  constructor
  · rintro ⟨below, g, hg, hline⟩
    obtain ⟨rfl, hs, hlt⟩ := table_mem_groupLines.1 hline
    rw [Nat.zero_add]
    exact ⟨g, g.tables[table], hg, hs, by rw [table?, hg, Option.bind_some, List.getElem?_eq_getElem hlt]⟩
  · rintro ⟨g, t, hg, hs, ht⟩
    rw [table?, hg, Option.bind_some] at ht
    have hlt : table < g.tables.length := (List.getElem?_eq_some_iff.1 ht).1
    exact ⟨group, g, hg, table_mem_groupLines.2 ⟨(Nat.zero_add group).symm, hs, hlt⟩⟩

/-- A line of a table under the cursor is the line of a listed table. -/
theorem exists_table?_of_current {p : Page} {group table : Nat} (h : p.current = some (.table group table)) :
    ∃ t, p.table? group table = some t := by
  obtain ⟨g, t, -, -, ht⟩ := table_mem_lines.1 (List.mem_of_getElem? h)
  exact ⟨t, ht⟩

/-! ### Folded groups -/

/-- No group shows its tables. -/
def Folded (p : Page) : Prop := ∀ g ∈ p.groups, g.row.selected = false

theorem linesFrom_of_folded (position : Nat) {groups : List Group} (h : ∀ g ∈ groups, g.row.selected = false) :
    linesFrom position groups = (List.range' position groups.length).map .group := by
  induction groups generalizing position with
  | nil => rfl
  | cons g rest ih =>
    have hg : groupLines position g = [.group position] := by
      simp [groupLines, h g List.mem_cons_self]
    rw [linesFrom, hg, ih (position + 1) fun g hg => h g (List.mem_cons_of_mem _ hg)]
    rfl

theorem Folded.length_lines {p : Page} (h : p.Folded) : p.lines.length = p.groups.length := by
  simp [lines, linesFrom_of_folded 0 h]

theorem Folded.current {p : Page} (h : p.Folded) (hc : p.cursor < p.groups.length) :
    p.current = some (.group p.cursor) := by
  simp [Page.current, lines, linesFrom_of_folded 0 h, hc]

theorem Folded.unfolded {p : Page} (h : p.Folded) : p.unfolded = [] := by
  simp only [Page.unfolded, List.map_eq_nil_iff, List.filter_eq_nil_iff]
  intro g hg
  simp [h g hg]

/-- A new list of tables on a folded page with the cursor on one of the new groups. -/
theorem Folded.setTables {p : Page} (h : p.Folded) {tables : List Table}
    (hc : p.cursor < (Group.ofTables tables).length) :
    p.setTables tables = {
      groups := Group.ofTables tables
      form := { p.form with
        items := ((Group.ofTables tables).flatMap (·.tables)).map (itemOf p.form.checkedValues) }
      cursor := p.cursor } := by
  have hmap : (Group.ofTables tables).map (fun g =>
      if p.unfolded.contains g.plugin then { g with row := g.row.activate } else g) = Group.ofTables tables := by
    simp [h.unfolded]
  unfold Page.setTables
  simp only [hmap]
  rw [clampCursor_of_lt]
  have hf : Folded { p with groups := Group.ofTables tables } := Group.ofTables_folded tables
  exact hf.length_lines ▸ hc

end TableDesk.Page
