import TableDesk.Proofs.Page.WellFormed

/-!
A new list of tables on a page. What the page remembers by name comes back wherever the name does: groups stay
unfolded by their plugin, items stay checked by the name of their table, and the cursor keeps its position as far
as the list reaches. The same list once more finds all of it in place.
-/

namespace TableDesk.Page

variable {p : Page} {tables : List Table}

theorem mem_unfolded {plugin : Option String} :
    plugin ∈ p.unfolded ↔ ∃ g ∈ p.groups, g.plugin = plugin ∧ g.row.selected = true := by
  simp only [unfolded, List.mem_map, List.mem_filter]
  constructor
  · rintro ⟨g, ⟨hg, hs⟩, hp⟩
    exact ⟨g, hg, hp, hs⟩
  · rintro ⟨g, hg, hp, hs⟩
    exact ⟨g, ⟨hg, hs⟩, hp⟩

/-! ### The groups -/

/-- A new group, unfolded if a group of its plugin was. -/
def reopened (p : Page) (g : Group) : Group :=
  if p.unfolded.contains g.plugin then { g with row := g.row.activate } else g

theorem setTables_groups (p : Page) (tables : List Table) :
    (p.setTables tables).groups = (Group.ofTables tables).map p.reopened := by
  simp [setTables, reopened]

@[simp] theorem reopened_plugin (p : Page) (g : Group) : (p.reopened g).plugin = g.plugin := by
  unfold reopened
  split <;> rfl

theorem selected_reopened (p : Page) {g : Group} (h : g.row.selected = false) :
    (p.reopened g).row.selected = true ↔ g.plugin ∈ p.unfolded := by
  unfold reopened
  split
  next hp => simpa [Row.activate, h] using hp
  next hp => simpa [h] using hp

theorem selected_of_mem_setTables {g : Group} (hg : g ∈ (p.setTables tables).groups) :
    g.row.selected = true ↔ g.plugin ∈ p.unfolded := by
  rw [setTables_groups] at hg
  obtain ⟨new, hn, rfl⟩ := List.mem_map.1 hg
  rw [p.selected_reopened (Group.ofTables_folded tables new hn), reopened_plugin]

/-- Of the new groups those are unfolded whose plugins had an unfolded group before. -/
theorem mem_unfolded_setTables {g : Group} (hg : g ∈ Group.ofTables tables) :
    g.plugin ∈ (p.setTables tables).unfolded ↔ g.plugin ∈ p.unfolded := by
  rw [mem_unfolded]
  constructor
  · rintro ⟨other, ho, hp, hs⟩
    exact hp ▸ (selected_of_mem_setTables ho).1 hs
  · intro h
    have hnew : p.reopened g ∈ (p.setTables tables).groups := by
      rw [setTables_groups]
      exact List.mem_map_of_mem hg
    exact ⟨_, hnew, p.reopened_plugin g, (p.selected_reopened (Group.ofTables_folded tables g hg)).2 h⟩

/-! ### The items -/

theorem checked_of_mem_setTables {item : Item} (h : item ∈ (p.setTables tables).form.items) :
    item.checked = true ↔ item.value ∈ p.form.checkedValues := by
  rw [setTables_items] at h
  obtain ⟨t, -, rfl⟩ := List.mem_map.1 h
  simp [itemOf]

theorem mem_checkedValues_setTables {name : String} (h : name ∈ (p.setTables tables).names) :
    name ∈ (p.setTables tables).form.checkedValues ↔ name ∈ p.form.checkedValues := by
  rw [setTables_checkedValues]
  simp [h]

/-- The first item of a name is checked as every item of it is. -/
theorem isChecked_setTables {name : String} (h : name ∈ (p.setTables tables).names) :
    (p.setTables tables).isChecked name = true ↔ name ∈ p.form.checkedValues := by
  constructor
  · intro hc
    exact (mem_checkedValues_setTables h).1 (mem_checkedValues_of_isChecked hc)
  · intro hc
    have ha : (p.setTables tables).Aligned := p.setTables_values tables
    obtain ⟨checked, hcheck⟩ := ha.exists_check? h
    obtain ⟨item, hf, hitem⟩ := Option.map_eq_some_iff.1 hcheck
    have hv : item.value = name := by simpa using List.find?_some hf
    have hchecked : item.checked = true :=
      (checked_of_mem_setTables (List.mem_of_find?_eq_some hf)).2 (hv ▸ hc)
    rw [isChecked, hcheck, ← hitem, hchecked]
    rfl

/-! ### The cursor -/

theorem clampCursor_cursor (p : Page) : p.clampCursor.cursor = min p.cursor (p.lines.length - 1) := by
  unfold clampCursor
  split
  next h =>
    show p.lines.length - 1 = _
    omega
  next h => omega

theorem setTables_cursor (p : Page) (tables : List Table) :
    (p.setTables tables).cursor = min p.cursor ((p.setTables tables).lines.length - 1) := by
  rw [setTables, clampCursor_cursor, lines_congr (clampCursor_groups _)]

/-! ### The same list again -/

theorem setTables_setTables_groups (p : Page) (tables : List Table) :
    ((p.setTables tables).setTables tables).groups = (p.setTables tables).groups := by
  rw [setTables_groups, setTables_groups p]
  refine List.map_congr_left fun g hg => ?_
  have hsame : (p.setTables tables).unfolded.contains g.plugin = p.unfolded.contains g.plugin := by
    rw [Bool.eq_iff_iff, List.contains_iff_mem, List.contains_iff_mem, mem_unfolded_setTables hg]
  rw [reopened, hsame, reopened]

theorem setTables_setTables_items (p : Page) (tables : List Table) :
    ((p.setTables tables).setTables tables).form.items = (p.setTables tables).form.items := by
  rw [setTables_items, setTables_items p, listed, setTables_setTables_groups, ← listed]
  refine List.map_congr_left fun t ht => ?_
  have hname : t.name ∈ (p.setTables tables).names := List.mem_map_of_mem ht
  simp [itemOf, mem_checkedValues_setTables hname]

theorem setTables_idem (p : Page) (tables : List Table) :
    (p.setTables tables).setTables tables = p.setTables tables := by
  have hgroups := p.setTables_setTables_groups tables
  have hform : ((p.setTables tables).setTables tables).form = (p.setTables tables).form := by
    rw [Form.mk.injEq]
    exact ⟨by simp, by simp, p.setTables_setTables_items tables⟩
  have hcursor : ((p.setTables tables).setTables tables).cursor = (p.setTables tables).cursor := by
    rw [setTables_cursor, lines_congr hgroups, setTables_cursor p]
    omega
  rw [Page.mk.injEq]
  exact ⟨hgroups, hform, hcursor⟩

/-- A new list of tables makes the groups and the items of that list. A group is unfolded exactly if the page had an
unfolded group of the same plugin, an item is checked exactly if its name was submitted before, and the cursor is
where it was or on the last line. The form keeps its name and its action. The same list again changes nothing. -/
theorem setTables_keeps_what_is_shown (p : Page) (tables : List Table) :
    let q := p.setTables tables
    (q.groups.map (fun g => (g.plugin, g.tables)) = (Group.ofTables tables).map fun g => (g.plugin, g.tables)) ∧
      (∀ g ∈ q.groups,
        (g.row.selected = true ↔ ∃ old ∈ p.groups, old.plugin = g.plugin ∧ old.row.selected = true)) ∧
      q.form.items.map (·.value) = (q.groups.flatMap (·.tables)).map (·.name) ∧
      (∀ item ∈ q.form.items, (item.checked = true ↔ item.value ∈ p.form.checkedValues)) ∧
      q.cursor = min p.cursor (q.lines.length - 1) ∧
      (q.form.id = p.form.id ∧ q.form.action = p.form.action) ∧
      q.setTables tables = q := by
  intro q
  exact ⟨p.setTables_contents tables, fun g hg => (selected_of_mem_setTables hg).trans mem_unfolded,
    p.setTables_values tables, fun item hi => checked_of_mem_setTables hi, p.setTables_cursor tables,
    ⟨p.setTables_form_id tables, p.setTables_form_action tables⟩, p.setTables_idem tables⟩

/-- The group of unknown plugins stays unfolded, a checked name is checked in both groups that have it now, and the
cursor moves up from a line that is gone. -/
theorem shorter_list_keeps_what_is_shown :
    let p := run [.setTables [⟨none, "C", none⟩, ⟨some "P", "A", some 3⟩, ⟨none, "D", none⟩], .selectNext, .activate,
      .selectNext, .check, .selectLast] .empty
    let q := p.setTables [⟨none, "C", none⟩, ⟨some "Q", "C", none⟩]
    (p.cursor = 3 ∧ q.groups = [⟨⟨false⟩, some "Q", [⟨some "Q", "C", none⟩]⟩, ⟨⟨true⟩, none, [⟨none, "C", none⟩]⟩]) ∧
      (∃ old ∈ p.groups, old.plugin = none ∧ old.row.selected = true) ∧
      (q.form.items = [⟨"C", true⟩, ⟨"C", true⟩] ∧ "C" ∈ p.form.checkedValues) ∧
      q.cursor = 2 ∧ q.setTables [⟨none, "C", none⟩, ⟨some "Q", "C", none⟩] = q := by
  intro p q
  have hgroups : q.groups =
      [⟨⟨false⟩, some "Q", [⟨some "Q", "C", none⟩]⟩, ⟨⟨true⟩, none, [⟨none, "C", none⟩]⟩] := by decide
  have hitems : q.form.items = [⟨"C", true⟩, ⟨"C", true⟩] := by decide
  obtain ⟨-, hrows, -, hchecks, hcursor, -, hidem⟩ :=
    setTables_keeps_what_is_shown p [⟨none, "C", none⟩, ⟨some "Q", "C", none⟩]
  exact ⟨⟨by decide, hgroups⟩, (hrows ⟨⟨true⟩, none, [⟨none, "C", none⟩]⟩ (by simp [q, hgroups])).1 rfl,
    ⟨hitems, (hchecks ⟨"C", true⟩ (by simp [q, hitems])).1 rfl⟩, hcursor.trans (by decide), hidem⟩

end TableDesk.Page
