import TableDesk.Json.Record

/-!
Forms of items that can be checked, and the submission that a form makes of its checked items.
-/

namespace TableDesk

/-- An item of a form: the value that it submits, and whether it is checked. -/
structure Item where
  value : String
  checked : Bool
  deriving DecidableEq, Repr

namespace Item

def toJson (item : Item) : Json.Value :=
  .object [(some "value", .text item.value), (some "checked", .bool item.checked)]

def ofValue? (v : Json.Value) : Option Item := do
  match ← Json.recordFields? ["value", "checked"] v with
  | [value, checked] =>
    return ⟨← Json.required Json.Value.text? value, ← Json.required Json.Value.bool? checked⟩
  | _ => none

end Item

/-- A form: its name, the action that it asks for, and its items in order. -/
structure Form where
  id : String
  action : String
  items : List Item
  deriving DecidableEq, Repr

/-- What a form hands over when it is submitted. -/
structure Submission where
  formId : String
  action : String
  values : List String
  deriving DecidableEq, Repr

namespace Submission

def joined (s : Submission) : String := ", ".intercalate s.values

def toJson (s : Submission) : Json.Value :=
  .object [(some "formId", .text s.formId), (some "action", .text s.action),
    (some "values", .array (s.values.map .text))]

def ofValue? (v : Json.Value) : Option Submission := do
  match ← Json.recordFields? ["formId", "action", "values"] v with
  | [formId, action, values] =>
    return {
      formId := ← Json.required Json.Value.text? formId
      action := ← Json.required Json.Value.text? action
      values := ← (← Json.required Json.Value.array? values).mapM Json.Value.text? }
  | _ => none

end Submission

namespace Form

def new (id action : String) : Form := ⟨id, action, []⟩

def addItems (form : Form) (items : List Item) : Form :=
  { form with items := form.items ++ items }

def checkedItems (form : Form) : List Item := form.items.filter (·.checked)

def checkedValues (form : Form) : List String := form.checkedItems.map (·.value)

/-- The first item with a value. -/
def item? (form : Form) (value : String) : Option Item :=
  form.items.find? (·.value == value)

/-- Changes the check of the first item with a value. -/
def modifyFirst (value : String) (f : Bool → Bool) : List Item → List Item
  | [] => []
  | item :: rest =>
    if item.value = value then { item with checked := f item.checked } :: rest
    else item :: modifyFirst value f rest

def setChecked (form : Form) (value : String) (checked : Bool) : Form :=
  { form with items := modifyFirst value (fun _ => checked) form.items }

def toggle (form : Form) (value : String) : Form :=
  { form with items := modifyFirst value (!·) form.items }

/-- Whether the first item of a value is checked, `none` without such an item. -/
def check? (form : Form) (value : String) : Option Bool :=
  (form.item? value).map (·.checked)

def clearChecked (form : Form) : Form :=
  { form with items := form.items.map ({ · with checked := false }) }

def submission (form : Form) : Submission :=
  ⟨form.id, form.action, form.checkedValues⟩

theorem modifyFirst_map_value (value : String) (f : Bool → Bool) (items : List Item) :
    (modifyFirst value f items).map (·.value) = items.map (·.value) := by
  induction items with
  | nil => rfl
  | cons item rest ih =>
    rw [modifyFirst]
    split <;> simp [ih]

/-- The check of a value after a change of the check of that value or another one. -/
theorem find?_modifyFirst (value other : String) (f : Bool → Bool) (items : List Item) :
    (modifyFirst value f items).find? (·.value == other) =
      if value = other then
        (items.find? (·.value == other)).map fun item => { item with checked := f item.checked }
      else items.find? (·.value == other) := by
  induction items with
  | nil => simp [modifyFirst]
  | cons item rest ih =>
    by_cases hv : item.value = value
    · by_cases ho : value = other <;> simp [modifyFirst, hv, ho]
    · by_cases ho : item.value = other
      · have : value ≠ other := fun h => hv (ho.trans h.symm)
        rw [modifyFirst, if_neg hv]
        simp [ho, this]
      · rw [modifyFirst, if_neg hv]
        simp [ho, ih]

end Form

end TableDesk
