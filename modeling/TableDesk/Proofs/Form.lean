import TableDesk.Form

/-!
Forms whose items may repeat a name. A look-up and a change concern the first item of a name, while a
submission collects every checked item. The two agree on a name that one item has; a checked item
behind another one of its name is submitted and never looked at.
-/

namespace TableDesk.Form

@[simp] theorem setChecked_id (form : Form) (value : String) (checked : Bool) :
    (form.setChecked value checked).id = form.id := rfl

@[simp] theorem setChecked_action (form : Form) (value : String) (checked : Bool) :
    (form.setChecked value checked).action = form.action := rfl

theorem setChecked_values (form : Form) (value : String) (checked : Bool) :
    (form.setChecked value checked).items.map (·.value) = form.items.map (·.value) :=
  modifyFirst_map_value value _ form.items

theorem toggle_values (form : Form) (value : String) :
    (form.toggle value).items.map (·.value) = form.items.map (·.value) :=
  modifyFirst_map_value value _ form.items

/-- Turning the first item of a name around twice gives the form back. -/
theorem toggle_toggle (form : Form) (value : String) : (form.toggle value).toggle value = form := by
  have htwice : ∀ items, modifyFirst value (!·) (modifyFirst value (!·) items) = items := by
    intro items
    induction items with
    | nil => rfl
    | cons item rest ih =>
      by_cases h : item.value = value
      · subst h
        simp [modifyFirst]
      · simp [modifyFirst, h, ih]
  simp [toggle, htwice]

theorem mem_checkedValues {form : Form} {value : String} :
    value ∈ form.checkedValues ↔ ∃ item ∈ form.items, item.value = value ∧ item.checked = true := by
  simp only [checkedValues, checkedItems, List.mem_map, List.mem_filter]
  constructor
  · rintro ⟨item, ⟨hm, hc⟩, hv⟩
    exact ⟨item, hm, hv, hc⟩
  · rintro ⟨item, hm, hv, hc⟩
    exact ⟨item, ⟨hm, hc⟩, hv⟩

@[simp] theorem clearChecked_checkedValues (form : Form) : form.clearChecked.checkedValues = [] := by
  simp [clearChecked, checkedValues, checkedItems]

/-! ### The first item of a name -/

theorem check?_modifyFirst (form : Form) (value other : String) (f : Bool → Bool) :
    check? { form with items := modifyFirst value f form.items } other =
      if value = other then (form.check? other).map f else form.check? other := by
  simp only [check?, item?, find?_modifyFirst]
  split
  · rw [Option.map_map, Option.map_map]
    rfl
  · rfl

theorem check?_setChecked (form : Form) (value other : String) (checked : Bool) :
    (form.setChecked value checked).check? other =
      if value = other then (form.check? other).map fun _ => checked else form.check? other :=
  form.check?_modifyFirst value other _

theorem check?_toggle (form : Form) (value other : String) :
    (form.toggle value).check? other =
      if value = other then (form.check? other).map (!·) else form.check? other :=
  form.check?_modifyFirst value other _

/-- Setting names one after the other gives each of them the same check and leaves the others. -/
theorem check?_foldl_setChecked (names : List String) (form : Form) (checked : Bool) (other : String) :
    (names.foldl (fun form name => form.setChecked name checked) form).check? other =
      if other ∈ names then (form.check? other).map fun _ => checked else form.check? other := by
  induction names generalizing form with
  | nil => simp
  | cons name rest ih =>
    rw [List.foldl_cons, ih, check?_setChecked]
    by_cases hn : name = other
    · by_cases hr : other ∈ rest <;> simp [hn, hr, Option.map_map, Function.comp_def]
    · have : other ≠ name := fun h => hn h.symm
      simp [hn, this]

theorem foldl_setChecked_values (names : List String) (form : Form) (checked : Bool) :
    (names.foldl (fun form name => form.setChecked name checked) form).items.map (·.value) =
      form.items.map (·.value) := by
  induction names generalizing form with
  | nil => rfl
  | cons name rest ih => rw [List.foldl_cons, ih, setChecked_values]

theorem foldl_setChecked_id (names : List String) (form : Form) (checked : Bool) :
    (names.foldl (fun form name => form.setChecked name checked) form).id = form.id := by
  induction names generalizing form with
  | nil => rfl
  | cons name rest ih => rw [List.foldl_cons, ih, setChecked_id]

theorem foldl_setChecked_action (names : List String) (form : Form) (checked : Bool) :
    (names.foldl (fun form name => form.setChecked name checked) form).action = form.action := by
  induction names generalizing form with
  | nil => rfl
  | cons name rest ih => rw [List.foldl_cons, ih, setChecked_action]

/-! ### Looking up and submitting -/

theorem mem_checkedValues_of_check? {form : Form} {value : String} (h : form.check? value = some true) :
    value ∈ form.checkedValues := by
  obtain ⟨item, hf, hc⟩ := Option.map_eq_some_iff.1 h
  have hv : item.value = value := by simpa using List.find?_some hf
  exact mem_checkedValues.2 ⟨item, List.mem_of_find?_eq_some hf, hv, hc⟩

/-- A name of one item is submitted only if its look-up finds it checked. -/
theorem check?_of_mem_checkedValues {form : Form} {value : String}
    (hone : (form.items.map (·.value)).count value = 1) (h : value ∈ form.checkedValues) :
    form.check? value = some true := by
  obtain ⟨item, hm, hv, hc⟩ := mem_checkedValues.1 h
  obtain ⟨before, after, hi⟩ := List.append_of_mem hm
  -- no item before the checked one has its name, or the name would be there twice
  have hb : value ∉ before.map (·.value) := by
    intro hb
    have hpos := List.count_pos_iff.2 hb
    simp only [hi, List.map_append, List.map_cons, List.count_append, hv, List.count_cons_self] at hone
    omega
  have hnone : before.find? (·.value == value) = none := by
    rw [List.find?_eq_none]
    intro other ho he
    exact hb (List.mem_map.2 ⟨other, ho, by simpa using he⟩)
  simp [check?, item?, hi, List.find?_append, hnone, hv, hc]

/-! ### Items that no look-up finds -/

/-- A checked item of a name stands behind another item of that name. -/
def Shadowed (value : String) (items : List Item) : Prop :=
  ∃ before item after, items = before ++ item :: after ∧ value ∈ before.map (·.value) ∧
    item.value = value ∧ item.checked = true

theorem modifyFirst_append (value : String) (f : Bool → Bool) (before after : List Item) :
    modifyFirst value f (before ++ after) =
      if value ∈ before.map (·.value) then modifyFirst value f before ++ after
      else before ++ modifyFirst value f after := by
  induction before with
  | nil => simp
  | cons item rest ih =>
    by_cases hv : item.value = value
    · simp [modifyFirst, hv]
    · have : value ≠ item.value := fun h => hv h.symm
      simp only [List.cons_append, modifyFirst, hv, if_false, ih, List.map_cons, List.mem_cons, this, false_or]
      split <;> rfl

/-- Whatever first item is changed, a shadowed item stays checked and shadowed. -/
theorem Shadowed.modifyFirst {value : String} {items : List Item} (h : Shadowed value items) (other : String)
    (f : Bool → Bool) : Shadowed value (modifyFirst other f items) := by
  obtain ⟨before, item, after, rfl, hb, hv, hc⟩ := h
  rw [modifyFirst_append]
  split
  next ho =>
    exact ⟨Form.modifyFirst other f before, item, after, rfl, by rwa [modifyFirst_map_value], hv, hc⟩
  next ho =>
    -- the changed item is behind `before`, and it is not `item`, whose name `before` has
    have hne : item.value ≠ other := fun he => ho (he ▸ hv ▸ hb)
    exact ⟨before, item, Form.modifyFirst other f after, by simp [Form.modifyFirst, hne], hb, hv, hc⟩

theorem Shadowed.foldl_setChecked {value : String} (names : List String) {form : Form} (checked : Bool)
    (h : Shadowed value form.items) :
    Shadowed value (names.foldl (fun form name => form.setChecked name checked) form).items := by
  induction names generalizing form with
  | nil => exact h
  | cons name rest ih => exact ih (h.modifyFirst name _)

theorem Shadowed.mem_checkedValues {value : String} {form : Form} (h : Shadowed value form.items) :
    value ∈ form.checkedValues := by
  obtain ⟨before, item, after, hi, _, hv, hc⟩ := h
  exact Form.mem_checkedValues.2 ⟨item, by simp [hi], hv, hc⟩

/-- A name of several items that are all checked has a shadowed item. -/
theorem shadowed_of_count {value : String} {items : List Item}
    (hmany : 1 < (items.map (·.value)).count value)
    (hall : ∀ item ∈ items, item.value = value → item.checked = true) : Shadowed value items := by
  induction items with
  | nil => simp at hmany
  | cons item rest ih =>
    by_cases hi : item.value = value
    · have hr : value ∈ rest.map (·.value) := by
        rw [List.map_cons, hi, List.count_cons_self] at hmany
        exact List.count_pos_iff.1 (by omega)
      obtain ⟨other, ho, hov⟩ := List.mem_map.1 hr
      obtain ⟨before, after, hs⟩ := List.append_of_mem ho
      exact ⟨item :: before, other, after, by simp [hs], by simp [hi], hov, hall other (by simp [ho]) hov⟩
    · have hr : 1 < (rest.map (·.value)).count value := by
        rwa [List.map_cons, List.count_cons_of_ne hi] at hmany
      obtain ⟨before, other, after, hs, hb, hov, hc⟩ :=
        ih hr fun other ho => hall other (List.mem_cons_of_mem _ ho)
      exact ⟨item :: before, other, after, by simp [hs], List.mem_cons_of_mem _ hb, hov, hc⟩

/-! ### Items that are the first of their value -/

/-- Only the first item of a value is checked. -/
def ChecksFirst (items : List Item) : Prop := items.Pairwise fun a b => b.checked = true → a.value ≠ b.value

theorem checksFirst_of_unchecked {items : List Item} (h : ∀ item ∈ items, item.checked = false) :
    ChecksFirst items := by
  refine List.pairwise_iff_forall_sublist.2 ?_
  intro a b hab hb
  rw [h b (hab.subset (by simp))] at hb
  contradiction

theorem mem_modifyFirst {value : String} {f : Bool → Bool} {items : List Item} {item : Item}
    (h : item ∈ modifyFirst value f items) : item ∈ items ∨ item.value = value := by
  induction items with
  | nil => exact .inl h
  | cons first rest ih =>
    rw [modifyFirst] at h
    split at h
    next hv =>
      rcases List.mem_cons.1 h with rfl | hr
      · exact .inr hv
      · exact .inl (List.mem_cons_of_mem _ hr)
    next =>
      rcases List.mem_cons.1 h with rfl | hr
      · exact .inl List.mem_cons_self
      · exact (ih hr).imp_left (List.mem_cons_of_mem _)

/-- What changes a first item leaves the others of its value unchecked. -/
theorem ChecksFirst.modifyFirst {items : List Item} (h : ChecksFirst items) (value : String) (f : Bool → Bool) :
    ChecksFirst (modifyFirst value f items) := by
  induction items with
  | nil => exact h
  | cons item rest ih =>
    obtain ⟨hitem, hrest⟩ := List.pairwise_cons.1 h
    rw [Form.modifyFirst]
    split
    · exact List.pairwise_cons.2 ⟨hitem, hrest⟩
    next hv =>
      refine List.pairwise_cons.2 ⟨?_, ih hrest⟩
      intro other ho hc
      rcases mem_modifyFirst ho with ho | hov
      · exact hitem other ho hc
      · exact hov ▸ hv

theorem ChecksFirst.foldl_setChecked (names : List String) {form : Form} (checked : Bool)
    (h : ChecksFirst form.items) :
    ChecksFirst (names.foldl (fun form name => form.setChecked name checked) form).items := by
  induction names generalizing form with
  | nil => exact h
  | cons name rest ih => exact ih (h.modifyFirst name _)

/-- No value is submitted twice then. -/
theorem ChecksFirst.nodup_checkedValues {form : Form} (h : ChecksFirst form.items) : form.checkedValues.Nodup := by
  rw [checkedValues, checkedItems, List.Nodup, List.pairwise_map, List.pairwise_filter]
  exact h.imp fun hne _ hb => hne hb

end TableDesk.Form
