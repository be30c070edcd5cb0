import TableDesk.Proofs.Message.BuiltIn
import TableDesk.Proofs.Message.Complete

/-!
What an override file does to the messages of a language. A file is an object of texts, in which a name may be defined
more than once; the last definition of a name counts, and it counts more than the built-in text. Names that the
program does not know are taken as well. A file that is there but cannot be read, or that is anything else than an
object of texts, makes the loading of the messages fail.
-/

namespace TableDesk.Message

/-! ### The last definition -/

/-- The last definition of a name gives it a template. -/
def IsLastDefinition (entries : List Entry) (name template : String) : Prop :=
  ∃ before after, entries = before ++ ⟨name, template⟩ :: after ∧ ∀ e ∈ after, e.key ≠ name

namespace Catalog

theorem get?_ofEntries (entries : List Entry) (name : String) :
    (ofEntries entries).get? name = (entries.reverse.find? (·.key == name)).map (·.template) := by
  rw [ofEntries, get?_foldl_insert]
  exact Option.or_none

theorem get?_ofEntries_eq_some_iff {entries : List Entry} {name template : String} :
    (ofEntries entries).get? name = some template ↔ IsLastDefinition entries name template := by
  rw [get?_ofEntries, Option.map_eq_some_iff]
  constructor
  · rintro ⟨entry, hfind, rfl⟩
    obtain ⟨hkey, later, earlier, hsplit, hlater⟩ := List.find?_eq_some_iff_append.1 hfind
    obtain rfl : entry.key = name := by simpa using hkey
    refine ⟨earlier.reverse, later.reverse, ?_, ?_⟩
    · rw [← List.reverse_reverse entries, hsplit]
      simp
    · intro e he
      simpa using hlater e (List.mem_reverse.1 he)
  · rintro ⟨before, after, rfl, hafter⟩
    refine ⟨⟨name, template⟩, ?_, rfl⟩
    rw [List.find?_eq_some_iff_append]
    refine ⟨by simp, after.reverse, before.reverse, by simp, ?_⟩
    intro e he
    simpa using hafter e (List.mem_reverse.1 he)

theorem get?_ofEntries_eq_none_iff {entries : List Entry} {name : String} :
    (ofEntries entries).get? name = none ↔ ∀ e ∈ entries, e.key ≠ name := by
  rw [get?_ofEntries, Option.map_eq_none_iff, List.find?_eq_none]
  simp

/-! ### One catalog over another -/

/-- No name has two templates. -/
def NamesDistinct (catalog : Catalog) : Prop := (catalog.entries.map (·.key)).Nodup

theorem map_key_setEntry (entry : Entry) (entries : List Entry) :
    (setEntry entry entries).map (·.key) =
      if entry.key ∈ entries.map (·.key) then entries.map (·.key) else entries.map (·.key) ++ [entry.key] := by
  induction entries with
  | nil => rfl
  | cons e rest ih =>
    by_cases he : e.key = entry.key
    · simp [setEntry, he]
    · have hne : entry.key ≠ e.key := Ne.symm he
      rw [setEntry, if_neg he, List.map_cons, ih]
      by_cases hmem : entry.key ∈ rest.map (·.key)
      · rw [if_pos hmem, if_pos (by simp [hmem]), List.map_cons]
      · rw [if_neg hmem, if_neg (by simp [hmem, hne]), List.map_cons, List.cons_append]

theorem NamesDistinct.insert {catalog : Catalog} (h : catalog.NamesDistinct) (entry : Entry) :
    (catalog.insert entry).NamesDistinct := by
  unfold NamesDistinct
  rw [insert_entries, map_key_setEntry]
  split
  · exact h
  next hnew => exact List.nodup_append.2 ⟨h, by simp, by simpa using hnew⟩

theorem namesDistinct_ofEntries (entries : List Entry) : (ofEntries entries).NamesDistinct := by
  have hfold : ∀ catalog : Catalog, catalog.NamesDistinct → (entries.foldl insert catalog).NamesDistinct := by
    induction entries with
    | nil => exact fun _ h => h
    | cons entry rest ih => exact fun catalog h => ih _ (h.insert entry)
  exact hfold empty List.nodup_nil

/-- The catalog laid over another one goes first in every look-up. -/
theorem get?_merge (catalog : Catalog) {other : Catalog} (h : other.NamesDistinct) (name : String) :
    (catalog.merge other).get? name = (other.get? name).or (catalog.get? name) := by
  rw [merge, get?_foldl_insert, get?]
  congr 2
  -- without a second template for the name the order of the search does not matter
  cases hf : other.entries.find? (·.key == name) with
  | none =>
    rw [List.find?_eq_none] at hf ⊢
    exact fun e he => hf e (List.mem_reverse.1 he)
  | some entry =>
    obtain ⟨hkey, before, after, hsplit, -⟩ := List.find?_eq_some_iff_append.1 hf
    unfold NamesDistinct at h
    rw [hsplit, List.map_append, List.map_cons, List.nodup_append] at h
    obtain ⟨hafter, -⟩ := List.nodup_cons.1 h.2.1
    obtain rfl : entry.key = name := by simpa using hkey
    rw [List.find?_eq_some_iff_append]
    refine ⟨hkey, after.reverse, before.reverse, by simp [hsplit], ?_⟩
    intro e he
    have hne : e.key ≠ entry.key := fun heq => hafter (heq ▸ List.mem_map_of_mem (List.mem_reverse.1 he))
    simpa using hne

theorem merge_ofEntries_nil (catalog : Catalog) : catalog.merge (ofEntries []) = catalog := rfl

/-! ### Override files -/

def member (e : Entry) : Json.Text × Json.Value := (some e.key, .string (some e.template))

theorem entryOfMember?_eq_some_iff {m : Json.Text × Json.Value} {e : Entry} :
    entryOfMember? m = some e ↔ m = member e := by
  unfold entryOfMember?
  split
  next key template =>
    rw [Option.some.injEq]
    constructor
    · rintro rfl
      rfl
    · intro h
      cases e
      cases h
      rfl
  next hother =>
    refine ⟨fun h => by contradiction, ?_⟩
    rintro rfl
    exact absurd rfl (hother _ _)

theorem mapM_entryOfMember?_eq_some_iff {members : List (Json.Text × Json.Value)} {entries : List Entry} :
    members.mapM entryOfMember? = some entries ↔ members = entries.map member := by
  induction members generalizing entries with
  | nil => cases entries <;> simp
  | cons m rest ih =>
    simp only [List.mapM_cons, Option.bind_eq_bind, Option.bind_eq_some_iff, entryOfMember?_eq_some_iff, ih]
    constructor
    · rintro ⟨e, rfl, others, rfl, h⟩
      obtain rfl : e :: others = entries := Option.some.inj h
      rfl
    · intro h
      cases entries with
      | nil => contradiction
      | cons e others =>
        obtain ⟨hm, hrest⟩ := List.cons.inj h
        exact ⟨e, hm, others, hrest, rfl⟩

/-- The text is an object that gives templates to names, in the order of the entries. -/
def Writes (json : String) (entries : List Entry) : Prop := Json.parse? json = some (.object (entries.map member))

theorem ofValue?_eq_some_iff {v : Json.Value} {catalog : Catalog} :
    ofValue? v = some catalog ↔ ∃ entries, v = .object (entries.map member) ∧ catalog = ofEntries entries := by
  unfold ofValue?
  split
  next members =>
    rw [Option.map_eq_some_iff]
    simp only [mapM_entryOfMember?_eq_some_iff, Json.Value.object.injEq, eq_comm]
  next hother =>
    refine ⟨fun h => by contradiction, ?_⟩
    rintro ⟨entries, rfl, -⟩
    exact absurd rfl (hother _)

/-- A catalog is read from the objects of texts and from nothing else. -/
theorem ofJson_eq_ok_iff {json : String} {catalog : Catalog} :
    ofJson json = .ok catalog ↔ ∃ entries, Writes json entries ∧ catalog = ofEntries entries := by
  unfold ofJson Writes
  cases hp : Json.parse? json with
  | none => simp
  | some v =>
    rw [Option.bind_some]
    simp only [Option.some.injEq, ← ofValue?_eq_some_iff]
    cases ofValue? v <;> simp

end Catalog

/-! ### The messages of a language -/

namespace Language

/-- What a language finds defined under a folder of override files. -/
inductive Finds (language : Language) (disk : Disk) : Option Path → List Entry → Prop where
  | noFolder : Finds language disk none []
  | noFile {folder : Path} (h : disk.contains (language.overrideFile folder) = false) :
      Finds language disk (some folder) []
  | file {folder : Path} {content : String} {entries : List Entry}
      (h : disk.contains (language.overrideFile folder) = true)
      (hread : disk.read (language.overrideFile folder) = .ok content) (hwrites : Catalog.Writes content entries) :
      Finds language disk (some folder) entries

/-- The override file of a language is there, but it cannot be read or it is no object of texts. -/
def FindsUnusable (language : Language) (disk : Disk) : Option Path → Prop
  | none => False
  | some folder => disk.contains (language.overrideFile folder) = true ∧
      ∀ content entries, disk.read (language.overrideFile folder) = .ok content → ¬ Catalog.Writes content entries

theorem finds_or_findsUnusable (language : Language) (disk : Disk) (folder : Option Path) :
    (∃ entries, language.Finds disk folder entries) ∨ language.FindsUnusable disk folder := by
  cases folder with
  | none => exact .inl ⟨[], .noFolder⟩
  | some folder =>
    cases hc : disk.contains (language.overrideFile folder) with
    | false => exact .inl ⟨[], .noFile hc⟩
    | true =>
      by_cases h : ∃ content entries, disk.read (language.overrideFile folder) = .ok content ∧
          Catalog.Writes content entries
      · obtain ⟨content, entries, hread, hwrites⟩ := h
        exact .inl ⟨entries, .file hc hread hwrites⟩
      · exact .inr ⟨hc, fun content entries hread hwrites => h ⟨content, entries, hread, hwrites⟩⟩

/-- The catalog has the last template that the entries give to a name, and else the language's own text. -/
def Overlaid (language : Language) (entries : List Entry) (catalog : Catalog) : Prop :=
  ∀ name template, catalog.get? name = some template ↔
    IsLastDefinition entries name template ∨
      (∀ e ∈ entries, e.key ≠ name) ∧ ∃ key : Key, key.name = name ∧ template = language.text key

theorem get?_builtIn_eq_some_iff {language : Language} {name template : String} :
    language.builtIn.get? name = some template ↔ ∃ key : Key, key.name = name ∧ template = language.text key := by
  constructor
  · intro h
    obtain ⟨before, after, hsplit, -⟩ := Catalog.get?_ofEntries_eq_some_iff.1 h
    have hmem : (⟨name, template⟩ : Entry) ∈ Key.all.map fun key => ⟨key.name, language.text key⟩ := by
      rw [hsplit]
      simp
    obtain ⟨key, -, hkey⟩ := List.mem_map.1 hmem
    obtain ⟨rfl, rfl⟩ := Entry.mk.inj hkey
    exact ⟨key, rfl, rfl⟩
  · rintro ⟨key, rfl, rfl⟩
    exact language.get?_builtIn key

theorem overlaid_merge (language : Language) (entries : List Entry) :
    language.Overlaid entries (language.builtIn.merge (.ofEntries entries)) := by
  intro name template
  rw [Catalog.get?_merge _ (Catalog.namesDistinct_ofEntries entries), Option.or_eq_some_iff,
    Catalog.get?_ofEntries_eq_some_iff, Catalog.get?_ofEntries_eq_none_iff, get?_builtIn_eq_some_iff]

theorem overlaid_builtIn (language : Language) : language.Overlaid [] language.builtIn := by
  have h := language.overlaid_merge []
  rwa [Catalog.merge_ofEntries_nil] at h

/-- What is found is laid over the built-in messages. -/
theorem Finds.load {language : Language} {disk : Disk} {folder : Option Path} {entries : List Entry}
    (h : language.Finds disk folder entries) :
    ∃ catalog, (language.load folder disk).1 = .ok catalog ∧ language.Overlaid entries catalog := by
  cases h with
  | noFolder => exact ⟨_, rfl, language.overlaid_builtIn⟩
  | noFile h =>
    refine ⟨_, ?_, language.overlaid_builtIn⟩
    simp only [Language.load, h, Bool.false_eq_true, if_false]
  | @file folder content entries h hread hwrites =>
    have hjson : Catalog.ofJson content = .ok (.ofEntries entries) := Catalog.ofJson_eq_ok_iff.2 ⟨entries, hwrites, rfl⟩
    refine ⟨_, ?_, language.overlaid_merge entries⟩
    simp only [Language.load, h, if_true, overrides, hread, hjson]

theorem FindsUnusable.load {language : Language} {disk : Disk} {folder : Option Path}
    (h : language.FindsUnusable disk folder) : ∃ e, (language.load folder disk).1 = .error e := by
  cases folder with
  | none => exact absurd h id
  | some folder =>
    obtain ⟨hc, hnot⟩ := h
    cases ho : overrides (language.overrideFile folder) disk with
    | error e => exact ⟨e, by simp only [Language.load, hc, if_true, ho]⟩
    | ok templates =>
      unfold overrides at ho
      split at ho
      · contradiction
      next content hread =>
        split at ho
        · contradiction
        next _ hjson =>
          obtain ⟨entries, hwrites, -⟩ := Catalog.ofJson_eq_ok_iff.1 hjson
          exact absurd hwrites (hnot content entries hread)

end Language

end TableDesk.Message
