import TableDesk.Message.Localization

/-!
Catalogs that hold every message of the program. The built-in texts do, and an override file can only
replace templates or add some, so that no catalog that is ever loaded lacks a message. What can go wrong
with an override file is that it cannot be read or parsed, which need not end the program.
-/

namespace TableDesk.Message

namespace Catalog

/-- The catalog holds every message of the program. -/
def Complete (catalog : Catalog) : Prop := ∀ key : Key, catalog.contains key.name = true

theorem contains_insert (catalog : Catalog) (entry : Entry) (key : String) :
    (catalog.insert entry).contains key = (entry.key == key || catalog.contains key) := by
  unfold contains
  rw [get?_insert]
  by_cases h : entry.key = key <;> simp [h]

theorem contains_foldl_insert (entries : List Entry) (catalog : Catalog) (key : String) :
    (entries.foldl insert catalog).contains key = (catalog.contains key || entries.any (·.key == key)) := by
  induction entries generalizing catalog with
  | nil => simp
  | cons entry rest ih =>
    rw [List.foldl_cons, ih, contains_insert, List.any_cons]
    cases entry.key == key <;> cases catalog.contains key <;> simp

theorem contains_ofEntries (entries : List Entry) (key : String) :
    (ofEntries entries).contains key = entries.any (·.key == key) := by
  rw [ofEntries, contains_foldl_insert]
  rfl

/-- Laying templates over a catalog removes none of its messages. -/
theorem Complete.merge {catalog : Catalog} (h : catalog.Complete) (other : Catalog) :
    (catalog.merge other).Complete := by
  intro key
  rw [Catalog.merge, contains_foldl_insert, h key, Bool.true_or]

theorem missing?_eq_none_iff {catalog : Catalog} : catalog.missing? = none ↔ catalog.Complete := by
  unfold missing?
  rw [List.find?_eq_none]
  constructor
  · intro h key
    simpa using h key key.mem_all
  · intro h key _
    simp [h key]

theorem ofJson_eq_error {json : String} {e : Fault} (h : ofJson json = .error e) : e.isFatal = false := by
  unfold ofJson at h
  split at h
  · contradiction
  · rw [← Except.error.inj h]; rfl

end Catalog

namespace Language

theorem builtIn_complete (language : Language) : language.builtIn.Complete := by
  intro key
  rw [builtIn, Catalog.contains_ofEntries, List.any_eq_true]
  exact ⟨⟨key.name, language.text key⟩, List.mem_map.2 ⟨key, key.mem_all, rfl⟩, by simp⟩

theorem overrides_eq_error {path : Path} {disk : Disk} {e : Failure} (h : overrides path disk = .error e) :
    e.fatal? = none := by
  unfold overrides at h
  split at h
  · rw [← Except.error.inj h]; rfl
  · split at h
    next cause hc =>
      rw [← Except.error.inj h, Failure.fatal?]
      simp only [Catalog.ofJson_eq_error hc]
      rfl
    · contradiction

/-- The messages of a language are complete, or there is a failure that need not end the program. -/
theorem load_cases (language : Language) (folder : Option Path) (disk : Disk) :
    (∃ catalog, (language.load folder disk).1 = .ok catalog ∧ catalog.Complete) ∨
      ∃ e, (language.load folder disk).1 = .error e ∧ e.fatal? = none := by
  unfold load
  cases folder with
  | none => exact .inl ⟨_, rfl, language.builtIn_complete⟩
  | some folder =>
    simp only
    split
    · cases ho : overrides (language.overrideFile folder) disk with
      | error e => exact .inr ⟨e, rfl, overrides_eq_error ho⟩
      | ok templates => exact .inl ⟨_, rfl, language.builtIn_complete.merge templates⟩
    · exact .inl ⟨_, rfl, language.builtIn_complete⟩

/-- The check of the loaded messages never finds one missing. -/
theorem loadComplete_eq_load (language : Language) (folder : Option Path) (disk : Disk) :
    language.loadComplete folder disk = language.load folder disk := by
  have hcases := language.load_cases folder disk
  unfold loadComplete
  rcases hl : language.load folder disk with ⟨answer, log⟩
  rw [hl] at hcases
  cases answer with
  | error e => rfl
  | ok catalog =>
    rcases hcases with ⟨_, hc, hcomplete⟩ | ⟨e, he, -⟩
    · cases hc
      simp only [Catalog.missing?_eq_none_iff.2 hcomplete]
    · contradiction

theorem loadComplete_cases (language : Language) (folder : Option Path) (disk : Disk) :
    (∃ catalog, (language.loadComplete folder disk).1 = .ok catalog ∧ catalog.Complete) ∨
      ∃ e, (language.loadComplete folder disk).1 = .error e ∧ e.fatal? = none := by
  rw [loadComplete_eq_load]
  exact language.load_cases folder disk

theorem complete_of_loadComplete {language : Language} {folder : Option Path} {disk : Disk} {catalog : Catalog}
    (h : (language.loadComplete folder disk).1 = .ok catalog) : catalog.Complete := by
  rcases language.loadComplete_cases folder disk with ⟨loaded, hl, hcomplete⟩ | ⟨e, he, -⟩
  · obtain rfl : loaded = catalog := Except.ok.inj (hl.symm.trans h)
    exact hcomplete
  · exact absurd (he.symm.trans h) (by simp)

theorem fatal?_of_loadComplete {language : Language} {folder : Option Path} {disk : Disk} {e : Failure}
    (h : (language.loadComplete folder disk).1 = .error e) : e.fatal? = none := by
  rcases language.loadComplete_cases folder disk with ⟨catalog, hl, -⟩ | ⟨e', he, hf⟩
  · exact absurd (hl.symm.trans h) (by simp)
  · obtain rfl : e' = e := Except.error.inj (he.symm.trans h)
    exact hf

/-- Without a folder of override files the built-in messages are taken. -/
theorem loadComplete_none (language : Language) (disk : Disk) :
    language.loadComplete none disk = (.ok language.builtIn, []) := by
  rw [loadComplete_eq_load]
  rfl

end Language

end TableDesk.Message
