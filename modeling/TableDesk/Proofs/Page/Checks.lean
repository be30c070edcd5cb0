import TableDesk.Proofs.Page.Lines

/-!
What is shown as checked and what a deletion would submit. A check that is shown is always submitted. The
converse holds in every state over a list of tables exactly for the names that the list has once: of a
name that it has twice, a new list checks every item, while checking and unchecking change the first one.
-/

namespace TableDesk.Page

theorem mem_checkedValues_of_isChecked {p : Page} {name : String} (h : p.isChecked name = true) :
    name ∈ p.form.checkedValues := by
  apply Form.mem_checkedValues_of_check?
  unfold isChecked at h
  cases hc : p.form.check? name with
  | none => simp [hc] at h
  | some checked => simpa [hc] using h

theorem isChecked_of_mem_checkedValues {p : Page} (ha : p.Aligned) {name : String}
    (hone : p.names.count name = 1) (h : name ∈ p.form.checkedValues) : p.isChecked name = true := by
  rw [← ha] at hone
  simp [isChecked, Form.check?_of_mem_checkedValues hone h]

/-- The listed names are those that a look-up finds. -/
theorem Aligned.exists_check? {p : Page} (ha : p.Aligned) {name : String} (h : name ∈ p.names) :
    ∃ checked, p.form.check? name = some checked := by
  rw [← ha] at h
  obtain ⟨item, hm, hv⟩ := List.mem_map.1 h
  cases hf : p.form.item? name with
  | none => exact absurd (by simpa using hv) (List.find?_eq_none.1 hf item hm)
  | some first => exact ⟨first.checked, by simp [Form.check?, hf]⟩

theorem name_mem_names {p : Page} {group : Nat} {g : Group} (hg : p.groups[group]? = some g) {name : String}
    (h : name ∈ g.tables.map (·.name)) : name ∈ p.names := by
  obtain ⟨t, ht, rfl⟩ := List.mem_map.1 h
  exact List.mem_map.2 ⟨t, List.mem_flatMap.2 ⟨g, List.mem_of_getElem? hg, ht⟩, rfl⟩

/-- Checking a group gives all its names one check, the opposite of whether all were checked. -/
theorem isChecked_checkGroup {p : Page} (ha : p.Aligned) {group : Nat} {g : Group}
    (hg : p.groups[group]? = some g) (name : String) :
    (p.checkGroup group).2.isChecked name =
      if name ∈ g.tables.map (·.name) then !(g.tables.map (·.name)).all p.isChecked else p.isChecked name := by
  simp only [checkGroup, hg, isChecked, Form.check?_foldl_setChecked]
  split
  next hn =>
    obtain ⟨checked, hc⟩ := ha.exists_check? (name_mem_names hg hn)
    simp [hc]
  next => rfl

theorem checkGroup_groups (p : Page) (group : Nat) : (p.checkGroup group).2.groups = p.groups := by
  unfold checkGroup
  split <;> rfl

theorem checkGroup_cursor (p : Page) (group : Nat) : (p.checkGroup group).2.cursor = p.cursor := by
  unfold checkGroup
  split <;> rfl

theorem Folded.checkCurrent {p : Page} (h : p.Folded) (hc : p.cursor < p.groups.length) :
    p.checkCurrent = p.checkGroup p.cursor := by
  unfold Page.checkCurrent
  rw [h.current hc]

/-! ### A name that is listed twice -/

/-- Unchecking a group leaves the second item of a name checked when every item of that name was. -/
theorem shadowed_checkGroup {p : Page} (ha : p.Aligned) {name : String} (hmany : 1 < p.names.count name)
    (hall : ∀ item ∈ p.form.items, item.value = name → item.checked = true) (group : Nat) :
    name ∈ (p.checkGroup group).2.form.checkedValues := by
  have hs : Form.Shadowed name p.form.items := Form.shadowed_of_count (by rwa [ha]) hall
  unfold checkGroup
  split
  · exact hs.mem_checkedValues
  · exact (hs.foldl_setChecked _ _).mem_checkedValues

/-- The operations that list some tables on an empty page and move the cursor to one of the groups. -/
def opsTo (tables : List Table) (group : Nat) : List Op := .setTables tables :: List.replicate group .selectNext

theorem run_opsTo {tables : List Table} {group : Nat} (hlt : group < (Group.ofTables tables).length) :
    run (opsTo tables group) .empty = {
      groups := Group.ofTables tables
      form := { Page.empty.form with items := ((Group.ofTables tables).flatMap (·.tables)).map (itemOf []) }
      cursor := group } := by
  have hempty : Folded .empty := fun _ h => by simp [Page.empty] at h
  have hset := hempty.setTables (show Page.empty.cursor < _ from Nat.zero_lt_of_lt hlt)
  have hfolded : (Page.empty.setTables tables).Folded := by
    unfold Folded
    rw [hset]
    exact Group.ofTables_folded tables
  have hlen : (Page.empty.setTables tables).lines.length = (Group.ofTables tables).length := by
    rw [hfolded.length_lines, hset]
  have hcursor : (Page.empty.setTables tables).cursor = 0 := by rw [hset]; rfl
  have hdown := run_replicate_selectNext group (p := Page.empty.setTables tables) (by rw [hcursor]; exact Nat.zero_le _)
  have hmin : min (0 + group) ((Group.ofTables tables).length - 1) = group := by omega
  rw [opsTo, run_cons, Op.run, hdown, hlen, hcursor, hmin, hset]
  rfl

/-- The tables can be listed and the cursor be moved to any group without checking anything. -/
theorem checked_run_opsTo {tables : List Table} {group : Nat} (hlt : group < (Group.ofTables tables).length) :
    ∀ item ∈ (run (opsTo tables group) .empty).form.items, item.checked = false := by
  rw [run_opsTo hlt]
  intro item hi
  obtain ⟨t, -, rfl⟩ := List.mem_map.1 hi
  simp [itemOf]

/-- A reachable page with the groups of some tables, all folded, and the cursor on one of them. -/
structure AtGroup (tables : List Table) (group : Nat) (p : Page) : Prop where
  reachable : Reachable p
  groups : p.groups = Group.ofTables tables
  cursor : p.cursor = group
  lt : group < (Group.ofTables tables).length

namespace AtGroup

variable {tables : List Table} {group : Nat} {p : Page}

theorem folded (h : AtGroup tables group p) : p.Folded := by
  unfold Folded
  rw [h.groups]
  exact Group.ofTables_folded tables

theorem check_eq (h : AtGroup tables group p) : Op.run .check p = (p.checkGroup group).2 := by
  rw [Op.run, h.folded.checkCurrent (by rw [h.cursor, h.groups]; exact h.lt), h.cursor]

theorem check (h : AtGroup tables group p) : AtGroup tables group (Op.run .check p) where
  reachable := h.reachable.run [.check]
  groups := by rw [h.check_eq, checkGroup_groups, h.groups]
  cursor := by rw [h.check_eq, checkGroup_cursor, h.cursor]
  lt := h.lt

theorem setTables_eq (h : AtGroup tables group p) :
    Op.run (.setTables tables) p = {
      groups := Group.ofTables tables
      form := { p.form with
        items := ((Group.ofTables tables).flatMap (·.tables)).map (itemOf p.form.checkedValues) }
      cursor := p.cursor } :=
  h.folded.setTables (by rw [h.cursor]; exact h.lt)

theorem setTables (h : AtGroup tables group p) : AtGroup tables group (Op.run (.setTables tables) p) where
  reachable := h.reachable.run [.setTables tables]
  groups := by rw [h.setTables_eq]
  cursor := by rw [h.setTables_eq, h.cursor]
  lt := h.lt

/-- Listing the tables again checks every item of a name that was submitted. -/
theorem checked_setTables (h : AtGroup tables group p) {item : Item}
    (hm : item ∈ (Op.run (.setTables tables) p).form.items) (hv : item.value ∈ p.form.checkedValues) :
    item.checked = true := by
  rw [h.setTables_eq] at hm
  obtain ⟨t, -, rfl⟩ := List.mem_map.1 hm
  simpa [itemOf] using hv

theorem run_opsTo (hlt : group < (Group.ofTables tables).length) :
    AtGroup tables group (run (opsTo tables group) .empty) where
  reachable := ⟨_, rfl⟩
  groups := by rw [Page.run_opsTo hlt]
  cursor := by rw [Page.run_opsTo hlt]
  lt := hlt

/-- With nothing checked, a check of the group checks all its names. -/
theorem mem_checkedValues_check (h : AtGroup tables group p) (hnone : ∀ item ∈ p.form.items, item.checked = false)
    {g : Group} (hg : p.groups[group]? = some g) {name : String} (hn : name ∈ g.tables.map (·.name)) :
    name ∈ (Op.run .check p).form.checkedValues := by
  have hnot : ¬ p.isChecked name = true := by
    intro hchecked
    obtain ⟨item, hi, -, hc⟩ := Form.mem_checkedValues.1 (mem_checkedValues_of_isChecked hchecked)
    rw [hnone item hi] at hc
    contradiction
  apply mem_checkedValues_of_isChecked
  rw [h.check_eq, isChecked_checkGroup h.reachable.aligned hg, if_pos hn, Bool.not_eq_true', List.all_eq_false]
  exact ⟨name, hn, hnot⟩

/-- With nothing checked, it checks no other item of these names than the first. -/
theorem nodup_checkedValues_check (h : AtGroup tables group p)
    (hnone : ∀ item ∈ p.form.items, item.checked = false) : (Op.run .check p).form.checkedValues.Nodup := by
  have hfirst := Form.checksFirst_of_unchecked hnone
  rw [h.check_eq]
  unfold checkGroup
  split
  · exact hfirst.nodup_checkedValues
  · exact (hfirst.foldl_setChecked _ _).nodup_checkedValues

end AtGroup

/-- A name that is listed is the name of a table of some group. -/
theorem exists_group_of_name {tables : List Table} {name : String}
    (h : name ∈ ((Group.ofTables tables).flatMap (·.tables)).map (·.name)) :
    ∃ group g, group < (Group.ofTables tables).length ∧ (Group.ofTables tables)[group]? = some g ∧
      name ∈ g.tables.map (·.name) := by
  obtain ⟨t, ht, hname⟩ := List.mem_map.1 h
  obtain ⟨g, hg, htg⟩ := List.mem_flatMap.1 ht
  obtain ⟨group, hlt, hget⟩ := List.mem_iff_getElem.1 hg
  exact ⟨group, g, hlt, List.getElem?_eq_some_iff.2 ⟨hlt, hget⟩, List.mem_map.2 ⟨t, htg, hname⟩⟩

/-- A check of one group submits a given name, and no name twice. -/
theorem exists_submitted_once {tables : List Table} {name : String}
    (h : name ∈ ((Group.ofTables tables).flatMap (·.tables)).map (·.name)) :
    ∃ group, name ∈ (Op.run .check (run (opsTo tables group) .empty)).form.checkedValues ∧
      (Op.run .check (run (opsTo tables group) .empty)).form.checkedValues.Nodup := by
  obtain ⟨group, g, hlt, hg, hname⟩ := exists_group_of_name h
  have hp := AtGroup.run_opsTo hlt
  have hnone := checked_run_opsTo hlt
  exact ⟨group, hp.mem_checkedValues_check hnone (by rw [hp.groups, hg]) hname, hp.nodup_checkedValues_check hnone⟩

/-- Checking the group of a name, listing the tables again and unchecking the group hides the check of a
name that is listed twice. -/
theorem exists_hidden_check {tables : List Table} {name : String}
    (hmany : 1 < (((Group.ofTables tables).flatMap (·.tables)).map (·.name)).count name) :
    ∃ p, Reachable p ∧ p.groups = Group.ofTables tables ∧
      p.isChecked name = false ∧ name ∈ p.form.checkedValues := by
  obtain ⟨group, g, hlt, hg, hnames⟩ := exists_group_of_name (List.count_pos_iff.1 (Nat.lt_of_succ_lt hmany))
  have hgroup : ∀ {p}, AtGroup tables group p → p.groups[group]? = some g := by
    intro p h
    rw [h.groups, hg]
  have hp := AtGroup.run_opsTo hlt
  -- after the first check every name of the group is submitted
  have hsubmitted : ∀ other ∈ g.tables.map (·.name),
      other ∈ (Op.run .check (run (opsTo tables group) .empty)).form.checkedValues :=
    fun _ => hp.mem_checkedValues_check (checked_run_opsTo hlt) (hgroup hp)
  have hq := hp.check.setTables
  refine ⟨_, hq.check.reachable, hq.check.groups, ?_, ?_⟩ <;> rw [hq.check_eq]
  · -- all names of the group are shown as checked, so the second check unchecks them
    rw [isChecked_checkGroup hq.reachable.aligned (hgroup hq), if_pos hnames, Bool.not_eq_false',
      List.all_eq_true]
    intro other ho
    obtain ⟨checked, hc⟩ := hq.reachable.aligned.exists_check? (name_mem_names (hgroup hq) ho)
    obtain ⟨item, hf, rfl⟩ := Option.map_eq_some_iff.1 hc
    have hv : item.value = other := by simpa using List.find?_some hf
    rw [isChecked, hc]
    exact hp.check.checked_setTables (List.mem_of_find?_eq_some hf) (hv ▸ hsubmitted other ho)
  · apply shadowed_checkGroup hq.reachable.aligned
    · simpa only [names, listed, hq.groups] using hmany
    · intro item hm hv
      exact hp.check.checked_setTables hm (hv ▸ hsubmitted name hnames)

/-! ### When the checks agree -/

/-- A shown check is submitted. In all states over the listed tables a submitted name is also shown as
checked exactly if the name is listed once. -/
theorem checks_agree_iff_listed_once {p : Page} (h : Reachable p) {name : String} (hn : name ∈ p.names) :
    (p.isChecked name = true → name ∈ p.form.checkedValues) ∧
      ((∀ q, Reachable q → q.listed = p.listed → (q.isChecked name = true ↔ name ∈ q.form.checkedValues)) ↔
        p.names.count name = 1) := by
  refine ⟨mem_checkedValues_of_isChecked, ?_, ?_⟩
  · intro hagree
    have hpos := List.count_pos_iff.2 hn
    rcases Nat.lt_or_ge 1 (p.names.count name) with hmany | hone
    · obtain ⟨tables, ht⟩ := h.contents
      have hl : p.listed = (Group.ofTables tables).flatMap (·.tables) := by
        rw [listed_eq, ht, List.flatMap_map]
      rw [names, hl] at hmany
      obtain ⟨q, hq, hg, hhidden, hm⟩ := exists_hidden_check hmany
      have hshown := (hagree q hq (by rw [listed, hg, hl])).2 hm
      rw [hhidden] at hshown
      exact absurd hshown Bool.false_ne_true
    · omega
  · intro hone q hq hl
    refine ⟨mem_checkedValues_of_isChecked, isChecked_of_mem_checkedValues hq.aligned ?_⟩
    rw [names, hl]
    exact hone

/-- Of a table that is listed twice and one that is listed once, the checks of the second one agree. -/
theorem checks_agree_of_two_and_one :
    let p := run [.setTables [⟨some "P", "A", none⟩, ⟨some "P", "A", none⟩, ⟨some "P", "B", some 3⟩]] .empty
    (Reachable p ∧ "A" ∈ p.names ∧ "B" ∈ p.names) ∧
      (¬ ∀ q, Reachable q → q.listed = p.listed → (q.isChecked "A" = true ↔ "A" ∈ q.form.checkedValues)) ∧
      ∀ q, Reachable q → q.listed = p.listed → (q.isChecked "B" = true ↔ "B" ∈ q.form.checkedValues) := by
  intro p
  have hp : Reachable p := ⟨_, rfl⟩
  have ha : "A" ∈ p.names := by decide
  have hb : "B" ∈ p.names := by decide
  refine ⟨⟨hp, ha, hb⟩, ?_, ?_⟩
  · intro h
    exact absurd ((checks_agree_iff_listed_once hp ha).2.1 h) (by decide)
  · exact (checks_agree_iff_listed_once hp hb).2.2 (by decide)

/-- The checks do not agree on every listed name: after a check, a reload and an uncheck of a plugin with a
repeated table, the table is shown as unchecked and would be deleted. -/
theorem not_all_checks_agree :
    ¬ ∀ (p : Page) (name : String), Reachable p → name ∈ p.names →
      (p.isChecked name = true ↔ name ∈ p.form.checkedValues) := by
  intro h
  have hrun := h (run [.setTables [⟨some "P", "T", none⟩, ⟨some "P", "T", none⟩], .check,
    .setTables [⟨some "P", "T", none⟩, ⟨some "P", "T", none⟩], .check] .empty) "T" ⟨_, rfl⟩ (by decide)
  exact absurd (hrun.2 (by decide)) (by decide)

end TableDesk.Page
