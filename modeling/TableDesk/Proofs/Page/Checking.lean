import TableDesk.Proofs.Page.Activation
import TableDesk.Proofs.Page.Checks

/-!
Checking the line under the cursor. On the row of a group all tables of the group get one check, whatever checks
they had, and no other name is touched; on the row of a table the check of its name is turned around. The lines and
the cursor stay. Names are looked at, not items: a name that two groups have is one name, and it has one check.
-/

namespace TableDesk.Page

variable {p : Page}

/-! ### What stays -/

theorem checkCurrent_groups (p : Page) : p.checkCurrent.2.groups = p.groups := by
  unfold checkCurrent
  split
  · rfl
  next group _ => exact p.checkGroup_groups group
  next group table _ => exact p.toggleTable_groups group table

theorem checkCurrent_cursor (p : Page) : p.checkCurrent.2.cursor = p.cursor := by
  unfold checkCurrent
  split
  · rfl
  next group _ => exact p.checkGroup_cursor group
  next group table _ => exact p.toggleTable_cursor group table

/-! ### The row of a group -/

theorem checkCurrent_of_group {group : Nat} (h : p.current = some (.group group)) :
    p.checkCurrent = p.checkGroup group := by
  rw [checkCurrent, h]

theorem checkGroup_answer {group : Nat} {g : Group} (hg : p.groups[group]? = some g) :
    (p.checkGroup group).1 = some !(g.tables.map (·.name)).all p.isChecked := by
  rw [checkGroup, hg]

theorem not_all_isChecked_eq_false_iff (g : Group) :
    (!(g.tables.map (·.name)).all p.isChecked) = false ↔ ∀ t ∈ g.tables, p.isChecked t.name = true := by
  simp

/-! ### The row of a table -/

theorem checkCurrent_of_table {group table : Nat} (h : p.current = some (.table group table)) :
    p.checkCurrent = p.toggleTable group table := by
  rw [checkCurrent, h]

theorem name_mem_names_of_table? {group table : Nat} {t : Table} (h : p.table? group table = some t) :
    t.name ∈ p.names := by
  obtain ⟨g, hg, ht⟩ := Option.bind_eq_some_iff.1 h
  exact name_mem_names hg (List.mem_map_of_mem (List.mem_of_getElem? ht))

theorem toggleTable_answer (ha : p.Aligned) {group table : Nat} {t : Table} (h : p.table? group table = some t) :
    (p.toggleTable group table).1 = some !p.isChecked t.name := by
  obtain ⟨checked, hc⟩ := ha.exists_check? (name_mem_names_of_table? h)
  simp [toggleTable, h, Form.check?_toggle, isChecked, hc]

theorem isChecked_toggleTable (ha : p.Aligned) {group table : Nat} {t : Table} (h : p.table? group table = some t)
    (name : String) :
    (p.toggleTable group table).2.isChecked name =
      if name = t.name then !p.isChecked name else p.isChecked name := by
  simp only [toggleTable, h, isChecked, Form.check?_toggle]
  by_cases hn : name = t.name
  · obtain ⟨checked, hc⟩ := ha.exists_check? (name_mem_names_of_table? h)
    simp [hn, hc]
  · have : t.name ≠ name := fun he => hn he.symm
    simp [hn, this]

/-- On the row of a group, checking gives all names of the group one check, which it answers: unchecked if all of
them were checked, and checked otherwise. On the row of a table it turns the check of the table's name around. No
other name is touched, and neither are the groups, the cursor, and the items in their order. -/
theorem check_is_all_or_none (h : Reachable p) :
    let q := p.checkCurrent.2
    (q.groups = p.groups ∧ q.cursor = p.cursor ∧ q.form.items.map (·.value) = p.form.items.map (·.value)) ∧
      (∀ group, p.current = some (.group group) →
        ∃ g checked, p.groups[group]? = some g ∧ p.checkCurrent.1 = some checked ∧
          (checked = false ↔ ∀ t ∈ g.tables, p.isChecked t.name = true) ∧
          (∀ t ∈ g.tables, q.isChecked t.name = checked) ∧
          ∀ name, name ∉ g.tables.map (·.name) → q.isChecked name = p.isChecked name) ∧
      ∀ group table, p.current = some (.table group table) →
        ∃ t, p.table? group table = some t ∧ p.checkCurrent.1 = some (!p.isChecked t.name) ∧
          q.isChecked t.name = (!p.isChecked t.name) ∧
          ∀ name, name ≠ t.name → q.isChecked name = p.isChecked name := by
  intro q
  refine ⟨⟨p.checkCurrent_groups, p.checkCurrent_cursor, p.checkCurrent_alike.values⟩, ?_, ?_⟩
  · intro group hcurrent
    obtain ⟨front, g, back, hon, rfl⟩ := exists_onGroup hcurrent
    have hg := hon.getElem?_groups
    have hafter : ∀ name, q.isChecked name = if name ∈ g.tables.map (·.name)
        then !(g.tables.map (·.name)).all p.isChecked else p.isChecked name := by
      intro name
      rw [← isChecked_checkGroup h.aligned hg, ← checkCurrent_of_group hcurrent]
    refine ⟨g, _, hg, ?_, not_all_isChecked_eq_false_iff g, ?_, ?_⟩
    · rw [checkCurrent_of_group hcurrent, checkGroup_answer hg]
    · intro t ht
      rw [hafter, if_pos (List.mem_map_of_mem ht)]
    · intro name hn
      rw [hafter, if_neg hn]
  · intro group table hcurrent
    obtain ⟨t, ht⟩ := exists_table?_of_current hcurrent
    have hafter : ∀ name, q.isChecked name = if name = t.name then !p.isChecked name else p.isChecked name := by
      intro name
      rw [← isChecked_toggleTable h.aligned ht, ← checkCurrent_of_table hcurrent]
    refine ⟨t, ht, ?_, ?_, ?_⟩
    · rw [checkCurrent_of_table hcurrent, toggleTable_answer h.aligned ht]
    · rw [hafter, if_pos rfl]
    · intro name hn
      rw [hafter, if_neg hn]

/-- Of two plugins that both list a table `A`, the second one has one of its tables checked. Checking its row checks
all of its tables, `A` under the first plugin with them, and leaves the other table of the first plugin. -/
theorem shared_name_is_all_or_none :
    let p := run [.setTables [⟨some "P", "A", none⟩, ⟨some "P", "C", none⟩, ⟨some "Q", "B", some 3⟩,
      ⟨some "Q", "A", none⟩], .selectNext, .activate, .selectNext, .check] .empty
    let q := p.selectPrevious
    (p.current = some (.table 1 0) ∧ p.isChecked "B" = true ∧ p.checkCurrent.2.isChecked "B" = false) ∧
      q.current = some (.group 1) ∧ q.checkCurrent.1 = some true ∧
      q.checkCurrent.2.isChecked "A" = true ∧ q.checkCurrent.2.isChecked "C" = q.isChecked "C" := by
  intro p q
  have hp : Reachable p := ⟨_, rfl⟩
  have hq : Reachable q := hp.run [.selectPrevious]
  have hptable : p.current = some (.table 1 0) := by decide
  have hqgroup : q.current = some (.group 1) := by decide
  have hb : p.isChecked "B" = true := by decide
  obtain ⟨t, ht, -, hturned, -⟩ := (check_is_all_or_none hp).2.2 1 0 hptable
  obtain rfl : ⟨some "Q", "B", some 3⟩ = t := Option.some.inj ((by decide : _ = _).trans ht)
  obtain ⟨g, checked, hg, hanswer, hall, hchecked, hother⟩ := (check_is_all_or_none hq).2.1 1 hqgroup
  obtain rfl : ⟨⟨true⟩, some "Q", [⟨some "Q", "B", some 3⟩, ⟨some "Q", "A", none⟩]⟩ = g :=
    Option.some.inj ((by decide : _ = _).trans hg)
  obtain rfl : checked = true := by
    cases checked with
    | true => rfl
    | false => exact absurd (hall.1 rfl ⟨some "Q", "A", none⟩ (by simp)) (by decide)
  refine ⟨⟨hptable, hb, hturned.trans (by rw [hb]; rfl)⟩, hqgroup, hanswer, ?_, hother "C" (by decide)⟩
  exact hchecked ⟨some "Q", "A", none⟩ (by simp)

end TableDesk.Page
