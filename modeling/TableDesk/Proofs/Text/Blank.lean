import Mathlib.Data.List.DropRight
import TableDesk.Text.Blank

/-!
Trimming takes white space away and nothing else. Texts that differ only by white space that one of them
lacks are compared by what stays visible of them.
-/

namespace TableDesk.Text

/-! ### Trimming at the end -/

theorem trimEnd_append (text more : List Char) :
    trimEnd (text ++ more) = if trimEnd more = [] then trimEnd text else text ++ trimEnd more := by
  induction text with
  | nil => by_cases h : trimEnd more = [] <;> simp [h, trimEnd_nil]
  | cons c rest ih =>
    by_cases hm : trimEnd more = []
    · rw [if_pos hm] at ih ⊢
      rw [List.cons_append, trimEnd, trimEnd, ih]
    · rw [if_neg hm] at ih ⊢
      have hne : trimEnd (rest ++ more) ≠ [] := by simp [ih, hm]
      rw [List.cons_append, trimEnd_cons_of_ne_nil c hne, ih, List.cons_append]

theorem trimEnd_eq_rdropWhile (text : List Char) : trimEnd text = text.rdropWhile isBlank := by
  induction text using List.reverseRecOn with
  | nil => rfl
  | append_singleton text c ih =>
    rw [trimEnd_append, List.rdropWhile_concat, ih]
    by_cases h : isBlank c = true <;> simp [trimEnd, h]

theorem trimEnd_eq_nil_iff {text : List Char} : trimEnd text = [] ↔ ∀ c ∈ text, isBlank c = true := by
  rw [trimEnd_eq_rdropWhile, List.rdropWhile_eq_nil_iff]

theorem trimEnd_append_of_blank (text : List Char) {blanks : List Char} (h : ∀ c ∈ blanks, isBlank c = true) :
    trimEnd (text ++ blanks) = trimEnd text := by
  rw [trimEnd_append, if_pos (trimEnd_eq_nil_iff.2 h)]

theorem trimEnd_idem (text : List Char) : trimEnd (trimEnd text) = trimEnd text := by
  simp only [trimEnd_eq_rdropWhile, List.rdropWhile_idempotent]

theorem exists_trimEnd_append (text : List Char) :
    ∃ blanks, (∀ c ∈ blanks, isBlank c = true) ∧ trimEnd text ++ blanks = text := by
  refine ⟨text.rtakeWhile isBlank, fun c hc => List.mem_rtakeWhile_imp hc, ?_⟩
  rw [trimEnd_eq_rdropWhile, List.rdropWhile_append_rtakeWhile]

/-- A trimmed text does not end in white space. -/
theorem isBlank_of_getLast?_trimEnd {text : List Char} {c : Char} (h : (trimEnd text).getLast? = some c) :
    isBlank c = false := by
  rw [trimEnd_eq_rdropWhile] at h
  have hne : text.rdropWhile isBlank ≠ [] := by
    intro hnil
    simp [hnil] at h
  rw [List.getLast?_eq_some_getLast hne] at h
  simpa [Option.some.inj h] using List.rdropWhile_last_not isBlank text hne

theorem trimEnd_eq_self {text : List Char} (h : ∀ c, text.getLast? = some c → isBlank c = false) :
    trimEnd text = text := by
  rw [trimEnd_eq_rdropWhile, List.rdropWhile_eq_self_iff]
  intro hne
  simp [h _ (List.getLast?_eq_some_getLast hne)]

/-! ### Trimming at both ends -/

/-- Trimming leaves what stands between two rows of white space and has none at its ends. -/
theorem trim_eq {before text after : List Char} (hb : ∀ c ∈ before, isBlank c = true)
    (ha : ∀ c ∈ after, isBlank c = true) (hfirst : ∀ c, text.head? = some c → isBlank c = false)
    (hlast : ∀ c, text.getLast? = some c → isBlank c = false) : trim (before ++ text ++ after) = text := by
  rw [trim, List.append_assoc, List.dropWhile_append_of_pos hb]
  cases text with
  | nil =>
    rw [List.nil_append, List.dropWhile_eq_nil_iff.2 ha]
    rfl
  | cons c rest =>
    rw [List.cons_append, List.dropWhile_cons_of_neg (by simp [hfirst c rfl]), ← List.cons_append,
      trimEnd_append_of_blank _ ha, trimEnd_eq_self hlast]

theorem exists_append_trim_append (text : List Char) :
    ∃ before after, (∀ c ∈ before, isBlank c = true) ∧ (∀ c ∈ after, isBlank c = true) ∧
      before ++ trim text ++ after = text := by
  obtain ⟨after, ha, he⟩ := exists_trimEnd_append (text.dropWhile isBlank)
  refine ⟨text.takeWhile isBlank, after, fun c hc => List.mem_takeWhile_imp hc, ha, ?_⟩
  rw [trim, List.append_assoc, he, List.takeWhile_append_dropWhile]

/-! ### What stays visible -/

def visible (text : List Char) : List Char := text.filter fun c => !isBlank c

@[simp] theorem visible_append (text more : List Char) : visible (text ++ more) = visible text ++ visible more :=
  List.filter_append text more

theorem visible_of_blank {blanks : List Char} (h : ∀ c ∈ blanks, isBlank c = true) : visible blanks = [] := by
  rw [visible, List.filter_eq_nil_iff]
  intro c hc
  simp [h c hc]

/-- The first text is the second one without some of its white space. -/
structure DropsBlanks (less text : List Char) : Prop where
  sublist : less.Sublist text
  visible : visible less = visible text

namespace DropsBlanks

theorem refl (text : List Char) : DropsBlanks text text := ⟨.refl text, rfl⟩

theorem trans {least less text : List Char} (h : DropsBlanks least less) (h' : DropsBlanks less text) :
    DropsBlanks least text :=
  ⟨h.sublist.trans h'.sublist, h.visible.trans h'.visible⟩

theorem append {less text less' text' : List Char} (h : DropsBlanks less text) (h' : DropsBlanks less' text') :
    DropsBlanks (less ++ less') (text ++ text') :=
  ⟨h.sublist.append h'.sublist, by rw [visible_append, visible_append, h.visible, h'.visible]⟩

theorem append_blank (text : List Char) {blanks : List Char} (h : ∀ c ∈ blanks, isBlank c = true) :
    DropsBlanks text (text ++ blanks) :=
  ⟨List.sublist_append_left text blanks, by rw [visible_append, visible_of_blank h, List.append_nil]⟩

theorem trimEnd (text : List Char) : DropsBlanks (trimEnd text) text := by
  obtain ⟨blanks, hb, he⟩ := exists_trimEnd_append text
  simpa only [he] using append_blank (Text.trimEnd text) hb

theorem flatMap (f : List Char → List Char) {pieces : List (List Char)}
    (h : ∀ piece ∈ pieces, DropsBlanks (f piece) piece) : DropsBlanks (pieces.flatMap f) pieces.flatten := by
  induction pieces with
  | nil => exact refl []
  | cons piece rest ih =>
    rw [List.flatMap_cons, List.flatten_cons]
    exact (h piece List.mem_cons_self).append (ih fun other ho => h other (List.mem_cons_of_mem piece ho))

end DropsBlanks

end TableDesk.Text
