/-!
The first element of a list that lacks a property. Where a list is gone through in order and every element has to have
the property, the walk stops there.
-/

namespace TableDesk

variable {α : Type} {p : α → Prop} {xs : List α} {x : α}

/-- The first element of a list that lacks a property. -/
def IsFirstWithout (p : α → Prop) (xs : List α) (x : α) : Prop :=
  ∃ before after, xs = before ++ x :: after ∧ (∀ y ∈ before, p y) ∧ ¬ p x

/-- Either no element lacks the property, or one is the first. -/
theorem forall_or_exists_isFirstWithout (p : α → Prop) (xs : List α) :
    (∀ x ∈ xs, p x) ∨ ∃ x, IsFirstWithout p xs x := by
  induction xs with
  | nil => exact .inl fun x hx => absurd hx List.not_mem_nil
  | cons y rest ih =>
    by_cases hy : p y
    · rcases ih with hall | ⟨x, before, after, rfl, hbefore, hx⟩
      · exact .inl (List.forall_mem_cons.2 ⟨hy, hall⟩)
      · exact .inr ⟨x, y :: before, after, rfl, List.forall_mem_cons.2 ⟨hy, hbefore⟩, hx⟩
    · exact .inr ⟨y, [], rest, rfl, fun _ h => absurd h List.not_mem_nil, hy⟩

theorem IsFirstWithout.not_forall (h : IsFirstWithout p xs x) : ¬ ∀ y ∈ xs, p y := by
  obtain ⟨before, after, rfl, -, hx⟩ := h
  intro hall
  exact hx (hall x (by simp))

/-- A search for the elements that lack the property finds the first one. -/
theorem IsFirstWithout.find?_eq (h : IsFirstWithout p xs x) {lacks : α → Bool} (hl : ∀ y, lacks y = true ↔ ¬ p y) :
    xs.find? lacks = some x := by
  obtain ⟨before, after, rfl, hbefore, hx⟩ := h
  rw [List.find?_eq_some_iff_append]
  refine ⟨(hl x).2 hx, before, after, rfl, ?_⟩
  intro y hy
  have hnot : ¬ lacks y = true := fun hlacks => (hl y).1 hlacks (hbefore y hy)
  simpa using hnot

end TableDesk
