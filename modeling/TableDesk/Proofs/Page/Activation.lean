import TableDesk.Proofs.Page.Lines

/-!
Activating the line under the cursor. The row of a group stands behind the lines of the groups before it, however
that group itself is folded; so it stays where it is when the group is folded or unfolded, the cursor stays on it,
and only the tables below it come or go. A second activation takes back the first.
-/

namespace TableDesk.Page

/-! ### Where the row of a group stands -/

def tableLines (position : Nat) (g : Group) : List Line := (List.range g.tables.length).map (.table position)

theorem groupLines_eq (position : Nat) (g : Group) :
    groupLines position g = .group position :: if g.row.selected then tableLines position g else [] := rfl

theorem linesFrom_append (position : Nat) (front back : List Group) :
    linesFrom position (front ++ back) = linesFrom position front ++ linesFrom (position + front.length) back := by
  induction front generalizing position with
  | nil => rfl
  | cons g rest ih =>
    rw [List.cons_append, linesFrom, linesFrom, ih, List.append_assoc, List.length_cons,
      Nat.add_assoc position 1, Nat.add_comm 1]

theorem group_notMem_tableLines (position group : Nat) (g : Group) : .group group ∉ tableLines position g := by
  simp [tableLines]

/-- The row of a group is found behind the lines of the groups before it and nowhere else. -/
theorem exists_of_linesFrom_eq_group {position : Nat} {groups : List Group} {cursor group : Nat}
    (h : (linesFrom position groups)[cursor]? = some (.group group)) :
    ∃ front g back, groups = front ++ g :: back ∧ group = position + front.length ∧
      cursor = (linesFrom position front).length := by
  induction groups generalizing position cursor with
  | nil => simp [linesFrom] at h
  | cons g rest ih =>
    rw [linesFrom, List.getElem?_append] at h
    split at h
    next hown =>
      cases cursor with
      | zero =>
        have hgroup : Line.group position = .group group := by simpa [groupLines_eq] using h
        exact ⟨[], g, rest, rfl, (Line.group.inj hgroup).symm, rfl⟩
      | succ below =>
        -- the further lines of the group are tables
        rw [groupLines_eq, List.getElem?_cons_succ] at h
        split at h
        · exact absurd (List.mem_of_getElem? h) (group_notMem_tableLines position group g)
        · simp at h
    next hbelow =>
      obtain ⟨front, other, back, rfl, rfl, hcursor⟩ := ih h
      refine ⟨g :: front, other, back, rfl, by rw [List.length_cons]; omega, ?_⟩
      rw [linesFrom, List.length_append]
      omega

/-- A page with the cursor on the row of a group, taken apart at that group. -/
structure OnGroup (p : Page) (front : List Group) (g : Group) (back : List Group) : Prop where
  groups : p.groups = front ++ g :: back
  cursor : p.cursor = (linesFrom 0 front).length

theorem exists_onGroup {p : Page} {group : Nat} (h : p.current = some (.group group)) :
    ∃ front g back, p.OnGroup front g back ∧ front.length = group := by
  obtain ⟨front, g, back, hg, hgroup, hc⟩ := exists_of_linesFrom_eq_group h
  exact ⟨front, g, back, ⟨hg, hc⟩, by omega⟩

namespace OnGroup

variable {p : Page} {front back : List Group} {g : Group}

theorem lines (h : p.OnGroup front g back) :
    p.lines = linesFrom 0 front ++ .group front.length ::
      ((if g.row.selected then tableLines front.length g else []) ++ linesFrom (front.length + 1) back) := by
  rw [Page.lines, h.groups, linesFrom_append, linesFrom, groupLines_eq, Nat.zero_add]
  rfl

theorem current (h : p.OnGroup front g back) : p.current = some (.group front.length) := by
  rw [Page.current, h.lines, h.cursor]
  simp

theorem getElem?_groups (h : p.OnGroup front g back) : p.groups[front.length]? = some g := by
  rw [h.groups]
  simp

/-- Turning the row of the group around leaves the cursor on the row. -/
theorem activateCurrent (h : p.OnGroup front g back) :
    p.activateCurrent =
      (some (!g.row.selected), { p with groups := front ++ { g with row := g.row.activate } :: back }) := by
  have hset : p.groups.set front.length { g with row := g.row.activate } =
      front ++ { g with row := g.row.activate } :: back := by
    rw [h.groups]
    simp
  have hturned : OnGroup { p with groups := front ++ { g with row := g.row.activate } :: back } front
      { g with row := g.row.activate } back := ⟨rfl, h.cursor⟩
  have hclamp := clampCursor_of_lt (p := { p with groups := front ++ { g with row := g.row.activate } :: back })
    (by rw [hturned.lines, hturned.cursor]; simp)
  rw [Page.activateCurrent, h.current]
  simp only [toggleGroup, h.getElem?_groups, hset, hclamp]
  rfl

theorem turned (h : p.OnGroup front g back) :
    OnGroup p.activateCurrent.2 front { g with row := g.row.activate } back := by
  rw [h.activateCurrent]
  exact ⟨rfl, h.cursor⟩

theorem activateCurrent_twice (h : p.OnGroup front g back) : p.activateCurrent.2.activateCurrent.2 = p := by
  rw [h.turned.activateCurrent, h.activateCurrent, Page.mk.injEq]
  simp [h.groups]

end OnGroup

/-! ### The row of a table -/

theorem toggleTable_twice (p : Page) (group table : Nat) :
    ((p.toggleTable group table).2.toggleTable group table).2 = p := by
  cases ht : p.table? group table with
  | none => simp [toggleTable, ht]
  | some t =>
    have hsame : ∀ form, Page.table? { p with form } group table = some t := fun _ => ht
    simp [toggleTable, ht, hsame, Form.toggle_toggle]

theorem toggleTable_groups (p : Page) (group table : Nat) : (p.toggleTable group table).2.groups = p.groups := by
  unfold toggleTable
  split <;> rfl

theorem toggleTable_cursor (p : Page) (group table : Nat) : (p.toggleTable group table).2.cursor = p.cursor := by
  unfold toggleTable
  split <;> rfl

/-! ### Twice -/

theorem activateCurrent_twice (p : Page) : p.activateCurrent.2.activateCurrent.2 = p := by
  cases hc : p.current with
  | none =>
    have h : p.activateCurrent.2 = p := by rw [activateCurrent, hc]
    rw [h, h]
  | some line =>
    cases line with
    | group group =>
      obtain ⟨front, g, back, h, -⟩ := exists_onGroup hc
      exact h.activateCurrent_twice
    | table group table =>
      have h : p.activateCurrent.2 = (p.toggleTable group table).2 := by rw [activateCurrent, hc]
      have hagain : (p.toggleTable group table).2.current = some (.table group table) := by
        rw [current, lines, toggleTable_groups, toggleTable_cursor]
        exact hc
      rw [h, activateCurrent, hagain]
      exact p.toggleTable_twice group table

/-- Activating twice gives the page back. On the row of a group one activation keeps the cursor on that row and
takes the lines of the group's tables, all of them in order, away from below it or puts them there, with every
other line in its place. -/
theorem activation_is_local_and_undone (p : Page) :
    p.activateCurrent.2.activateCurrent.2 = p ∧
      ∀ group, p.current = some (.group group) →
        let q := p.activateCurrent.2
        (q.cursor = p.cursor ∧ q.current = some (.group group)) ∧
          ∃ g above below, p.groups[group]? = some g ∧ above.length = p.cursor ∧
            if g.row.selected then
              p.lines = above ++ .group group :: (tableLines group g ++ below) ∧
                q.lines = above ++ .group group :: below
            else
              p.lines = above ++ .group group :: below ∧
                q.lines = above ++ .group group :: (tableLines group g ++ below) := by
  refine ⟨p.activateCurrent_twice, fun group hcurrent => ?_⟩
  obtain ⟨front, g, back, h, rfl⟩ := exists_onGroup hcurrent
  have hcursor : p.activateCurrent.2.cursor = p.cursor := by rw [h.activateCurrent]
  refine ⟨⟨hcursor, h.turned.current⟩, g, linesFrom 0 front, linesFrom (front.length + 1) back, h.getElem?_groups,
    h.cursor.symm, ?_⟩
  have hlines := h.lines
  have hturned := h.turned.lines
  cases hs : g.row.selected <;> simpa [hs, Row.activate, tableLines] using And.intro hlines hturned

/-- Below an unfolded group the row of the next group is unfolded, and folded again. -/
theorem second_group_is_local_and_undone :
    let p := run [.setTables [⟨some "P", "A", none⟩, ⟨some "Q", "B", some 3⟩, ⟨none, "C", none⟩], .activate,
      .selectNext, .selectNext] .empty
    (p.lines = [.group 0, .table 0 0, .group 1, .group 2] ∧ p.current = some (.group 1)) ∧
      p.activateCurrent.2.lines = [.group 0, .table 0 0, .group 1, .table 1 0, .group 2] ∧
      p.activateCurrent.2.activateCurrent.2 = p ∧ p.activateCurrent.2.current = some (.group 1) := by
  intro p
  have hcurrent : p.current = some (.group 1) := by decide
  obtain ⟨htwice, hlocal⟩ := activation_is_local_and_undone p
  exact ⟨⟨by decide, hcurrent⟩, by decide, htwice, (hlocal 1 hcurrent).1.2⟩

end TableDesk.Page
