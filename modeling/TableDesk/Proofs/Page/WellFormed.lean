import TableDesk.Proofs.Group.Plugins
import TableDesk.Proofs.Page.Checks

/-!
The page at all times: its groups are those of grouping, its items are the listed tables, and its cursor
stands on the list. The groups and the form change together, so that all of this but the cursor follows from
what a new list of tables sets up. The cursor is looked at for each operation, since the list gets shorter
when a group is folded and when other tables come.
-/

namespace TableDesk.Page

/-! ### The cursor on the list -/

/-- The cursor is on a line, or at the start of a list without lines. -/
def CursorOnList (p : Page) : Prop := p.cursor ≤ p.lines.length - 1

theorem lines_congr {p q : Page} (h : q.groups = p.groups) : q.lines = p.lines := by
  rw [lines, lines, h]

theorem CursorOnList.congr {p q : Page} (h : p.CursorOnList) (hg : q.groups = p.groups)
    (hc : q.cursor = p.cursor) : q.CursorOnList := by
  rw [CursorOnList, lines_congr hg, hc]
  exact h

theorem clampCursor_cursorOnList (p : Page) : p.clampCursor.CursorOnList := by
  rw [CursorOnList, lines_congr p.clampCursor_groups]
  unfold clampCursor
  split
  · exact Nat.le_refl _
  next h => omega

theorem selectNext_cursorOnList {p : Page} (h : p.CursorOnList) : p.selectNext.CursorOnList := by
  unfold selectNext
  split
  next hlt =>
    show p.cursor + 1 ≤ p.lines.length - 1
    omega
  · exact h

theorem toggleGroup_cursorOnList {p : Page} (h : p.CursorOnList) (group : Nat) :
    (p.toggleGroup group).2.CursorOnList := by
  unfold toggleGroup
  split
  · exact h
  · exact clampCursor_cursorOnList _

theorem toggleTable_cursorOnList {p : Page} (h : p.CursorOnList) (group table : Nat) :
    (p.toggleTable group table).2.CursorOnList := by
  unfold toggleTable
  split
  · exact h
  · exact h.congr rfl rfl

theorem activateCurrent_cursorOnList {p : Page} (h : p.CursorOnList) : p.activateCurrent.2.CursorOnList := by
  unfold activateCurrent
  split
  · exact h
  next group _ => exact toggleGroup_cursorOnList h group
  next group table _ => exact toggleTable_cursorOnList h group table

theorem checkCurrent_cursorOnList {p : Page} (h : p.CursorOnList) : p.checkCurrent.2.CursorOnList := by
  unfold checkCurrent
  split
  · exact h
  next group _ => exact h.congr (p.checkGroup_groups group) (p.checkGroup_cursor group)
  next group table _ => exact toggleTable_cursorOnList h group table

theorem Op.run_cursorOnList (o : Op) {p : Page} (h : p.CursorOnList) : (o.run p).CursorOnList := by
  cases o with
  | setTables tables => exact clampCursor_cursorOnList _
  | selectPrevious => exact Nat.le_trans (Nat.sub_le p.cursor 1) h
  | selectNext => exact selectNext_cursorOnList h
  | selectFirst => exact Nat.zero_le _
  | selectLast => exact Nat.le_refl _
  | activate => exact activateCurrent_cursorOnList h
  | check => exact checkCurrent_cursorOnList h
  | clear => exact h.congr rfl rfl

theorem lines_eq_nil_iff {p : Page} : p.lines = [] ↔ p.groups = [] := by
  rw [lines]
  cases p.groups <;> simp [linesFrom, groupLines]

theorem CursorOnList.cursor_lt {p : Page} (h : p.CursorOnList) (hg : p.groups ≠ []) :
    p.cursor < p.lines.length := by
  have hpos := List.length_pos_iff.2 (mt lines_eq_nil_iff.1 hg)
  unfold CursorOnList at h
  omega

theorem CursorOnList.cursor_eq_zero {p : Page} (h : p.CursorOnList) (hg : p.groups = []) : p.cursor = 0 := by
  rw [CursorOnList, lines_eq_nil_iff.2 hg] at h
  exact Nat.le_zero.1 h

/-- There is a line under the cursor exactly if there is anything to list. -/
theorem CursorOnList.isSome_current {p : Page} (h : p.CursorOnList) :
    p.current.isSome = true ↔ p.groups ≠ [] := by
  have hlt : p.current.isSome = true ↔ p.cursor < p.lines.length := by simp [current]
  rw [hlt]
  constructor
  · intro hlt hg
    rw [lines_eq_nil_iff.2 hg] at hlt
    exact Nat.not_lt_zero _ hlt
  · exact h.cursor_lt

/-! ### The whole page -/

/-- What holds of the page at all times. -/
structure WellFormed (p : Page) : Prop where
  groups : Group.WellFormed p.groups
  items : p.form.items.map (·.value) = (p.groups.flatMap (·.tables)).map (·.name)
  formId : p.form.id = TableDeletion.formId
  action : p.form.action = TableDeletion.deleteAction
  cursor : p.CursorOnList

theorem empty_wellFormed : WellFormed .empty where
  groups := Group.ofTables_wellFormed []
  items := rfl
  formId := rfl
  action := rfl
  cursor := Nat.le_refl 0

theorem Op.run_wellFormed (o : Op) {p : Page} (h : p.WellFormed) : (o.run p).WellFormed where
  groups := by
    rcases o.setTables_or_alike p with ⟨tables, rfl⟩ | ha
    · exact (Group.ofTables_wellFormed tables).of_contents (p.setTables_contents tables)
    · exact h.groups.of_contents ha.contents
  items := o.run_aligned (p := p) h.items
  formId := (o.run_form_id p).trans h.formId
  action := (o.run_form_action p).trans h.action
  cursor := o.run_cursorOnList h.cursor

theorem Reachable.wellFormed {p : Page} (h : Reachable p) : p.WellFormed :=
  h.induct empty_wellFormed fun o _ hp => o.run_wellFormed hp

/-- Whatever is done to the page, no group is empty, no two groups have one plugin, only the last group may
lack one, and every table is in the group of its plugin. The items of the form are the listed tables in order,
the form keeps its name and its action, and the cursor is on a line as soon as there is a group. -/
theorem groups_form_and_cursor_fit (ops : List Op) :
    let p := run ops .empty
    (∀ g ∈ p.groups, g.tables ≠ []) ∧
      (p.groups.map (·.plugin)).Nodup ∧
      (∀ g ∈ p.groups.dropLast, g.plugin ≠ none) ∧
      (∀ g ∈ p.groups, ∀ t ∈ g.tables, t.plugin = g.plugin) ∧
      p.form.items.map (·.value) = (p.groups.flatMap (·.tables)).map (·.name) ∧
      (p.form.id = Page.empty.form.id ∧ p.form.action = Page.empty.form.action) ∧
      (p.groups = [] → p.cursor = 0) ∧
      (p.groups ≠ [] → p.cursor < p.lines.length) ∧
      (p.current.isSome = true ↔ p.groups ≠ []) := by
  intro p
  have h : p.WellFormed := Reachable.wellFormed ⟨ops, rfl⟩
  exact ⟨h.groups.nonempty, h.groups.distinct, h.groups.known_before_unknown, h.groups.owned, h.items,
    ⟨h.formId, h.action⟩, h.cursor.cursor_eq_zero, h.cursor.cursor_lt, h.cursor.isSome_current⟩

/-- The last line of four goes away with a table of an unfolded group. -/
theorem shrunk_list_fits :
    let p := run [.setTables [⟨none, "C", none⟩, ⟨some "P", "A", some 3⟩, ⟨some "P", "B", none⟩], .activate,
      .selectNext, .selectNext, .check, .selectLast, .setTables [⟨none, "C", none⟩, ⟨some "P", "B", none⟩]] .empty
    p.groups.map (·.plugin) = [some "P", none] ∧ p.form.items = [⟨"B", true⟩, ⟨"C", false⟩] ∧ p.cursor = 2 ∧
      (p.groups ≠ [] ∧ p.cursor < p.lines.length) ∧ p.current.isSome = true := by
  intro p
  have hg : p.groups ≠ [] := by decide
  obtain ⟨-, -, -, -, -, -, -, hlt, hcurrent⟩ := groups_form_and_cursor_fit
    [.setTables [⟨none, "C", none⟩, ⟨some "P", "A", some 3⟩, ⟨some "P", "B", none⟩], .activate,
      .selectNext, .selectNext, .check, .selectLast, .setTables [⟨none, "C", none⟩, ⟨some "P", "B", none⟩]]
  exact ⟨by decide, by decide, by decide, ⟨hg, hlt hg⟩, hcurrent.2 hg⟩

end TableDesk.Page
