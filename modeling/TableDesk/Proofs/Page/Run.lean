import TableDesk.Page
import TableDesk.Proofs.Form

/-!
Runs of the page: what can be done to it, one thing after the other, and what stays through all of it.
Only a new list of tables changes which tables there are; everything else folds, checks or moves the
cursor. In every page that a run leads to the items of the form are the listed tables, in order.
-/

namespace TableDesk.Page

inductive Op where
  | setTables (tables : List Table)
  | selectPrevious
  | selectNext
  | selectFirst
  | selectLast
  | activate
  | check
  | clear
  deriving DecidableEq, Repr

def Op.run : Op → Page → Page
  | .setTables tables, p => p.setTables tables
  | .selectPrevious, p => p.selectPrevious
  | .selectNext, p => p.selectNext
  | .selectFirst, p => p.selectFirst
  | .selectLast, p => p.selectLast
  | .activate, p => p.activateCurrent.2
  | .check, p => p.checkCurrent.2
  | .clear, p => p.clearChecked

def run (ops : List Op) (p : Page) : Page := ops.foldl (fun p o => o.run p) p

@[simp] theorem run_nil (p : Page) : run [] p = p := rfl

@[simp] theorem run_cons (o : Op) (ops : List Op) (p : Page) : run (o :: ops) p = run ops (o.run p) := rfl

theorem run_append (ops more : List Op) (p : Page) : run (ops ++ more) p = run more (run ops p) :=
  List.foldl_append

/-- A page that some run makes of the page before any tables are known. -/
def Reachable (p : Page) : Prop := ∃ ops, p = run ops .empty

theorem Reachable.run {p : Page} (h : Reachable p) (ops : List Op) : Reachable (run ops p) := by
  obtain ⟨before, rfl⟩ := h
  exact ⟨before ++ ops, (run_append before ops .empty).symm⟩

/-- What holds at first and through every operation holds of every reachable page. -/
theorem Reachable.induct {P : Page → Prop} (hempty : P .empty) (hstep : ∀ o p, P p → P (Op.run o p)) {p : Page}
    (h : Reachable p) : P p := by
  obtain ⟨ops, rfl⟩ := h
  suffices ∀ p, P p → P (Page.run ops p) from this .empty hempty
  induction ops with
  | nil => exact fun _ hp => hp
  | cons o rest ih => exact fun p hp => ih (o.run p) (hstep o p hp)

/-! ### The listed tables -/

/-- The tables of all groups, in order. -/
def listed (p : Page) : List Table := p.groups.flatMap (·.tables)

def names (p : Page) : List String := p.listed.map (·.name)

/-- The tables of each group under their plugin, whether or not they are shown. -/
def contents (p : Page) : List (Option String × List Table) := p.groups.map fun g => (g.plugin, g.tables)

theorem listed_eq (p : Page) : p.listed = p.contents.flatMap (·.2) := by
  simp [listed, contents, List.flatMap_map]

/-- The second page has the groups and the form of the first one, up to what is unfolded and checked. -/
structure Alike (p q : Page) : Prop where
  contents : q.contents = p.contents
  values : q.form.items.map (·.value) = p.form.items.map (·.value)
  id : q.form.id = p.form.id
  action : q.form.action = p.form.action

theorem Alike.refl (p : Page) : Alike p p := ⟨rfl, rfl, rfl, rfl⟩

theorem Alike.names {p q : Page} (h : Alike p q) : q.names = p.names := by
  simp only [Page.names, listed_eq, h.contents]

@[simp] theorem clampCursor_groups (p : Page) : p.clampCursor.groups = p.groups := by
  unfold clampCursor; split <;> rfl

@[simp] theorem clampCursor_form (p : Page) : p.clampCursor.form = p.form := by
  unfold clampCursor; split <;> rfl

theorem toggleTable_alike (p : Page) (group table : Nat) : Alike p (p.toggleTable group table).2 := by
  unfold toggleTable
  cases p.table? group table with
  | none => exact Alike.refl p
  | some t => exact ⟨rfl, Form.toggle_values p.form t.name, rfl, rfl⟩

theorem toggleGroup_alike (p : Page) (group : Nat) : Alike p (p.toggleGroup group).2 := by
  unfold toggleGroup
  cases hg : p.groups[group]? with
  | none => exact Alike.refl p
  | some g =>
    refine ⟨?_, by simp, by simp, by simp⟩
    obtain ⟨hlt, rfl⟩ := List.getElem?_eq_some_iff.1 hg
    simp only [contents, clampCursor_groups, List.map_set]
    apply List.ext_getElem?
    intro i
    rw [List.getElem?_set]
    split
    next hi => subst hi; simp [hlt]
    next => rfl

theorem checkGroup_alike (p : Page) (group : Nat) : Alike p (p.checkGroup group).2 := by
  unfold checkGroup
  cases p.groups[group]? with
  | none => exact Alike.refl p
  | some g =>
    exact ⟨rfl, Form.foldl_setChecked_values _ _ _, Form.foldl_setChecked_id _ _ _,
      Form.foldl_setChecked_action _ _ _⟩

theorem activateCurrent_alike (p : Page) : Alike p p.activateCurrent.2 := by
  unfold activateCurrent
  cases p.current with
  | none => exact Alike.refl p
  | some line =>
    cases line with
    | group group => exact p.toggleGroup_alike group
    | table group table => exact p.toggleTable_alike group table

theorem checkCurrent_alike (p : Page) : Alike p p.checkCurrent.2 := by
  unfold checkCurrent
  cases p.current with
  | none => exact Alike.refl p
  | some line =>
    cases line with
    | group group => exact p.checkGroup_alike group
    | table group table => exact p.toggleTable_alike group table

theorem clearChecked_alike (p : Page) : Alike p p.clearChecked :=
  ⟨rfl, by simp [clearChecked, Form.clearChecked, Function.comp_def], rfl, rfl⟩

theorem selectNext_alike (p : Page) : Alike p p.selectNext := by
  unfold selectNext
  split <;> exact ⟨rfl, rfl, rfl, rfl⟩

/-- Apart from a new list of tables, nothing changes which tables there are. -/
theorem Op.setTables_or_alike (o : Op) (p : Page) : (∃ tables, o = .setTables tables) ∨ Alike p (o.run p) := by
  cases o with
  | setTables tables => exact .inl ⟨tables, rfl⟩
  | selectPrevious | selectFirst | selectLast => exact .inr ⟨rfl, rfl, rfl, rfl⟩
  | selectNext => exact .inr p.selectNext_alike
  | activate => exact .inr p.activateCurrent_alike
  | check => exact .inr p.checkCurrent_alike
  | clear => exact .inr p.clearChecked_alike

/-! ### A new list of tables -/

theorem setTables_contents (p : Page) (tables : List Table) :
    (p.setTables tables).contents = (Group.ofTables tables).map fun g => (g.plugin, g.tables) := by
  simp only [contents, setTables, clampCursor_groups, List.map_map]
  congr 1
  funext g
  simp only [Function.comp_apply]
  split <;> rfl

theorem setTables_items (p : Page) (tables : List Table) :
    (p.setTables tables).form.items = (p.setTables tables).listed.map (itemOf p.form.checkedValues) := by
  simp [setTables, listed]

@[simp] theorem setTables_form_id (p : Page) (tables : List Table) :
    (p.setTables tables).form.id = p.form.id := by simp [setTables]

@[simp] theorem setTables_form_action (p : Page) (tables : List Table) :
    (p.setTables tables).form.action = p.form.action := by simp [setTables]

theorem setTables_values (p : Page) (tables : List Table) :
    (p.setTables tables).form.items.map (·.value) = (p.setTables tables).names := by
  rw [setTables_items, List.map_map]
  rfl

/-- Of a new list of tables those are checked whose names were checked before. -/
theorem setTables_checkedValues (p : Page) (tables : List Table) :
    (p.setTables tables).form.checkedValues =
      (p.setTables tables).names.filter p.form.checkedValues.contains := by
  rw [Form.checkedValues, Form.checkedItems, setTables_items, names, List.filter_map, List.filter_map,
    List.map_map]
  rfl

/-! ### What holds of every reachable page -/

/-- The items of the form are the listed tables, in order. -/
def Aligned (p : Page) : Prop := p.form.items.map (·.value) = p.names

theorem Op.run_aligned (o : Op) {p : Page} (h : p.Aligned) : (o.run p).Aligned := by
  rcases o.setTables_or_alike p with ⟨tables, rfl⟩ | ha
  · exact p.setTables_values tables
  · unfold Aligned
    rw [ha.values, ha.names, h]

theorem Reachable.aligned {p : Page} (h : Reachable p) : p.Aligned :=
  h.induct (P := Aligned) rfl fun o _ hp => o.run_aligned hp

theorem Op.run_form_id (o : Op) (p : Page) : (o.run p).form.id = p.form.id := by
  rcases o.setTables_or_alike p with ⟨tables, rfl⟩ | ha
  · exact p.setTables_form_id tables
  · exact ha.id

theorem Op.run_form_action (o : Op) (p : Page) : (o.run p).form.action = p.form.action := by
  rcases o.setTables_or_alike p with ⟨tables, rfl⟩ | ha
  · exact p.setTables_form_action tables
  · exact ha.action

/-- Every page is made of the groups of some list of tables. -/
theorem Reachable.contents {p : Page} (h : Reachable p) :
    ∃ tables, p.contents = (Group.ofTables tables).map fun g => (g.plugin, g.tables) := by
  refine h.induct (P := fun p => ∃ tables, p.contents = (Group.ofTables tables).map fun g => (g.plugin, g.tables))
    ⟨[], rfl⟩ ?_
  intro o p hp
  rcases o.setTables_or_alike p with ⟨tables, rfl⟩ | ha
  · exact ⟨tables, p.setTables_contents tables⟩
  · obtain ⟨tables, ht⟩ := hp
    exact ⟨tables, ha.contents.trans ht⟩

end TableDesk.Page
