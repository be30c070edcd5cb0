import Mathlib.Algebra.Ring.Parity
import Mathlib.Data.List.Basic
import TableDesk.Proofs.Form

/-!
Items turned around one after the other. A toggle concerns the first item of its value, and it moves no item, so that
the item it concerns is told by the form at the start. Whatever happens to other items in between, an item has been
turned around as often as its value was named; the checks at the end are told by the parities alone, and a submission
takes them in the order of the items.
-/

namespace TableDesk.Form

/-- Turns around the first items of some values, one after the other. -/
def toggleAll (form : Form) (values : List String) : Form := values.foldl toggle form

@[simp] theorem toggleAll_nil (form : Form) : form.toggleAll [] = form := rfl

@[simp] theorem toggleAll_cons (form : Form) (value : String) (rest : List String) :
    form.toggleAll (value :: rest) = (form.toggle value).toggleAll rest := rfl

/-- The position of the first item of a value, the number of items if there is none. -/
def firstPosition (form : Form) (value : String) : Nat := (form.items.map (·.value)).idxOf value

/-- The item of a form at a position, after some values have been named: turned around once for each time that its
value is among them if it is the first item of its value, and as it was if it is not. -/
def turned (form : Form) (values : List String) (position : Nat) (item : Item) : Item :=
  if form.firstPosition item.value = position then { item with checked := not^[values.count item.value] item.checked }
  else item

/-! ### One toggle -/

theorem firstPosition_toggle (form : Form) (value other : String) :
    (form.toggle value).firstPosition other = form.firstPosition other := by
  rw [firstPosition, toggle_values, firstPosition]

theorem firstPosition_lt {form : Form} {value : String} (h : value ∈ form.items.map (·.value)) :
    form.firstPosition value < form.items.length := by
  rw [← List.length_map (f := (·.value))]
  exact List.idxOf_lt_length_of_mem h

/-- The first item of a value has that value. -/
theorem value_of_firstPosition {form : Form} {value : String} {item : Item}
    (h : form.items[form.firstPosition value]? = some item) : item.value = value := by
  have hvalue : (form.items.map (·.value))[form.firstPosition value]? = some item.value := by
    rw [List.getElem?_map, h, Option.map_some]
  obtain ⟨hlt, hget⟩ := List.getElem?_eq_some_iff.1 hvalue
  rw [← hget]
  exact List.getElem_idxOf hlt

/-- A change of the first item of a value is a change at its position. -/
theorem modifyFirst_eq_modify (value : String) (f : Bool → Bool) (items : List Item) :
    modifyFirst value f items =
      items.modify ((items.map (·.value)).idxOf value) fun item => { item with checked := f item.checked } := by
  induction items with
  | nil => rfl
  | cons item rest ih =>
    rw [modifyFirst]
    split
    next hv => simp [hv]
    next hv =>
      have hidx : (item.value :: rest.map (·.value)).idxOf value = (rest.map (·.value)).idxOf value + 1 :=
        List.idxOf_cons_ne _ hv
      rw [ih, List.map_cons, hidx, List.modify_succ_cons]

theorem getElem?_toggle (form : Form) (value : String) (i : Nat) :
    (form.toggle value).items[i]? = form.items[i]?.map fun item =>
      if form.firstPosition value = i then { item with checked := !item.checked } else item := by
  rw [toggle, modifyFirst_eq_modify, List.getElem?_modify]
  rfl

/-- What a toggle has made of an item, turned around for the rest of the values, is the item turned around for all of
them. -/
theorem turned_toggle {form : Form} (value : String) (rest : List String) {i : Nat} {item : Item}
    (hi : form.items[i]? = some item) :
    (form.toggle value).turned rest i
        (if form.firstPosition value = i then { item with checked := !item.checked } else item) =
      form.turned (value :: rest) i item := by
  by_cases hv : item.value = value
  · subst hv
    by_cases hfirst : form.firstPosition item.value = i <;> simp [turned, firstPosition_toggle, hfirst]
  · -- the toggle concerns an item of its own value, so another one
    have hother : form.firstPosition value ≠ i := by
      rintro rfl
      exact hv (value_of_firstPosition hi)
    have hcount : (value :: rest).count item.value = rest.count item.value := List.count_cons_of_ne (Ne.symm hv)
    simp [turned, firstPosition_toggle, hother, hcount]

theorem mapIdx_turned_toggle (form : Form) (value : String) (rest : List String) :
    (form.toggle value).items.mapIdx ((form.toggle value).turned rest) =
      form.items.mapIdx (form.turned (value :: rest)) := by
  refine List.ext_getElem? fun i => ?_
  rw [List.getElem?_mapIdx, List.getElem?_mapIdx, getElem?_toggle, Option.map_map]
  exact Option.map_congr fun item hi => turned_toggle value rest hi

/-! ### Many toggles -/

theorem mapIdx_turned_nil (form : Form) : form.items.mapIdx (form.turned []) = form.items := by
  have hsame : form.turned [] = fun _ item => item := by
    funext i item
    simp [turned]
  rw [hsame, List.mapIdx_eq_zipIdx_map, List.zipIdx_map_fst]

/-- Toggles change nothing but the items, and each item by itself. -/
theorem toggleAll_eq (form : Form) (values : List String) :
    form.toggleAll values = { form with items := form.items.mapIdx (form.turned values) } := by
  induction values generalizing form with
  | nil => rw [toggleAll_nil, mapIdx_turned_nil]
  | cons value rest ih =>
    -- the first toggle moves no item, so that the rest can be told by the form at the start
    rw [toggleAll_cons, ih, mapIdx_turned_toggle]
    rfl

theorem getElem?_toggleAll (form : Form) (values : List String) (i : Nat) :
    (form.toggleAll values).items[i]? = form.items[i]?.map (form.turned values i) := by
  rw [toggleAll_eq, List.getElem?_mapIdx]

/-! ### Parities -/

theorem iterate_not (n : Nat) (checked : Bool) : not^[n] checked = if n % 2 = 0 then checked else !checked := by
  split
  next heven => rw [Bool.involutive_not.iterate_even (Nat.even_iff.2 heven), id_eq]
  next hodd => rw [Bool.involutive_not.iterate_odd (Nat.odd_iff.2 (by omega))]

theorem iterate_not_eq_iff (n m : Nat) (checked : Bool) :
    not^[n] checked = not^[m] checked ↔ n % 2 = m % 2 := by
  have hn := Nat.mod_two_eq_zero_or_one n
  have hm := Nat.mod_two_eq_zero_or_one m
  rw [iterate_not, iterate_not]
  rcases hn with hn | hn <;> rcases hm with hm | hm <;> simp [hn, hm]

theorem turned_congr {form : Form} {values others : List String} {item : Item}
    (h : values.count item.value % 2 = others.count item.value % 2) (i : Nat) :
    form.turned values i item = form.turned others i item := by
  rw [turned, turned, (iterate_not_eq_iff _ _ item.checked).2 h]

theorem turned_firstPosition {form : Form} (values : List String) {value : String} {item : Item}
    (h : form.items[form.firstPosition value]? = some item) :
    form.turned values (form.firstPosition value) item =
      { item with checked := not^[values.count value] item.checked } := by
  rw [turned, value_of_firstPosition h, if_pos rfl]

/-- Two ways to turn items around lead to one form exactly if they name the value of each item equally often up to
an even number, in whatever order and whatever other values they name. The submission takes, in the order of the items,
the values of those items that are checked once the first item of each value is turned around as often as it was
named. -/
theorem toggles_count_by_parity (form : Form) (values others : List String) :
    (form.toggleAll values = form.toggleAll others ↔
        ∀ value ∈ form.items.map (·.value), values.count value % 2 = others.count value % 2) ∧
      (form.toggleAll values).submission =
        ⟨form.id, form.action, ((form.items.mapIdx (form.turned values)).filter (·.checked)).map (·.value)⟩ := by
  refine ⟨⟨fun heq value hvalue => ?_, fun hparity => ?_⟩, ?_⟩
  · have hget := List.getElem?_eq_getElem (firstPosition_lt hvalue)
    have hitem := form.getElem?_toggleAll values (form.firstPosition value)
    rw [heq, getElem?_toggleAll, hget, Option.map_some, Option.map_some, turned_firstPosition others hget,
      turned_firstPosition values hget] at hitem
    have hchecked := congrArg Item.checked (Option.some.inj hitem)
    exact ((iterate_not_eq_iff _ _ _).1 hchecked).symm
  · have hitems : form.items.mapIdx (form.turned values) = form.items.mapIdx (form.turned others) := by
      refine List.ext_getElem? fun i => ?_
      rw [List.getElem?_mapIdx, List.getElem?_mapIdx]
      refine Option.map_congr fun item hi => ?_
      exact turned_congr (hparity _ (List.mem_map_of_mem (List.mem_of_getElem? hi))) i
    rw [toggleAll_eq, toggleAll_eq, hitems]
  · rw [toggleAll_eq]
    rfl

/-- Of two items of one value only the first one is turned around, and a value of no item does not count. -/
theorem repeated_toggles_count_by_parity :
    let form : Form := ⟨"ao-tables", "delete", [⟨"A", false⟩, ⟨"B", true⟩, ⟨"A", true⟩, ⟨"C", true⟩]⟩
    (∀ value ∈ form.items.map (·.value),
        ["C", "A", "X", "A", "A"].count value % 2 = ["A", "B", "C", "B"].count value % 2) ∧
      form.toggleAll ["C", "A", "X", "A", "A"] = form.toggleAll ["A", "B", "C", "B"] ∧
      (form.toggleAll ["C", "A", "X", "A", "A"]).submission = ⟨"ao-tables", "delete", ["A", "B", "A"]⟩ := by
  intro form
  have hparity : ∀ value ∈ form.items.map (·.value),
      ["C", "A", "X", "A", "A"].count value % 2 = ["A", "B", "C", "B"].count value % 2 := by decide
  obtain ⟨heq, hsubmission⟩ := form.toggles_count_by_parity ["C", "A", "X", "A", "A"] ["A", "B", "C", "B"]
  exact ⟨hparity, heq.2 hparity, hsubmission.trans (by decide)⟩

end TableDesk.Form
