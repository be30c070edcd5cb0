import Mathlib.Data.List.Nodup
import TableDesk.Message.Localization

/-!
The built-in catalog of a language gives every message the language's text. A catalog made of entries has the
last template that they give to a name, and no two messages share a name.
-/

namespace TableDesk.Message

/-- Of the templates that are laid over a catalog, the last one of a name counts. -/
theorem Catalog.get?_foldl_insert (entries : List Entry) (catalog : Catalog) (key : String) :
    (entries.foldl insert catalog).get? key =
      ((entries.reverse.find? (·.key == key)).map (·.template)).or (catalog.get? key) := by
  induction entries generalizing catalog with
  | nil => rfl
  | cons entry rest ih =>
    rw [List.foldl_cons, ih, get?_insert, List.reverse_cons, List.find?_append]
    cases rest.reverse.find? (·.key == key) with
    | some found => rfl
    | none => by_cases h : entry.key = key <;> simp [h]

theorem Key.name_injective : Function.Injective Key.name := by
  have hnodup : (Key.all.map Key.name).Nodup := by decide +kernel
  exact fun a b h => List.inj_on_of_nodup_map hnodup a.mem_all b.mem_all h

theorem Language.get?_builtIn (language : Language) (key : Key) :
    language.builtIn.get? key.name = some (language.text key) := by
  rw [builtIn, Catalog.ofEntries, Catalog.get?_foldl_insert]
  cases hf : (Key.all.map fun key => Entry.mk key.name (language.text key)).reverse.find? (·.key == key.name) with
  | none =>
    have hmem : Entry.mk key.name (language.text key) ∈
        (Key.all.map fun key => Entry.mk key.name (language.text key)).reverse :=
      List.mem_reverse.2 (List.mem_map_of_mem key.mem_all)
    exact absurd (by simp) (List.find?_eq_none.1 hf _ hmem)
  | some entry =>
    obtain ⟨other, -, rfl⟩ := List.mem_map.1 (List.mem_reverse.1 (List.mem_of_find?_eq_some hf))
    have hname : other.name = key.name := by simpa using List.find?_some hf
    rw [Key.name_injective hname]
    rfl

end TableDesk.Message
