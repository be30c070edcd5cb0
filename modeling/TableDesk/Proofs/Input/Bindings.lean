import Mathlib.Data.List.Nodup
import TableDesk.Input.Bindings

/-!
The requests that reports of the terminal can make. A key makes a request of the table it is looked up in or
none, so that nothing but requests to it gets past what lies over the page. No key has two bindings, so a request
is made exactly by the presses of its own keys.
-/

namespace TableDesk.Input

theorem requestIn_cases (bindings : List (Binding × Request)) (key : KeyEvent) :
    requestIn bindings key = .nothing ∨ ∃ binding ∈ bindings, requestIn bindings key = binding.2 := by
  unfold requestIn
  cases hf : bindings.find? (·.1.accepts key) with
  | none => exact .inl rfl
  | some binding => exact .inr ⟨binding, List.mem_of_find?_eq_some hf, rfl⟩

theorem exists_of_mem_modalBindings {binding : Binding × Request} (h : binding ∈ modalBindings) :
    ∃ request, binding.2 = .modal request := by
  have hall : ∀ binding ∈ modalBindings, ∃ request, binding.2 = .modal request := by
    simp [modalBindings]
  exact hall binding h

/-- While something lies over the page, reports make requests to it or none. -/
theorem requestOf_true (e : Event) : requestOf true e = .nothing ∨ ∃ request, requestOf true e = .modal request := by
  cases e with
  | key key =>
    by_cases hk : key.kind = .press
    · have hr : requestOf true (.key key) = requestIn modalBindings key := by simp [requestOf, hk]
      rcases requestIn_cases modalBindings key with hn | ⟨binding, hb, hm⟩
      · exact .inl (hr.trans hn)
      · obtain ⟨request, hq⟩ := exists_of_mem_modalBindings hb
        exact .inr ⟨request, hr.trans (hm.trans hq)⟩
    · exact .inl (by simp [requestOf, hk])
  | resize | focusGained | focusLost | paste | mouse => exact .inl rfl

/-! ### Keys -/

def Event.presses (keys : List Binding) : Event → Bool
  | .key report => report.kind = .press && keys.any (·.accepts report)
  | _ => false

theorem Event.presses_append (keys more : List Binding) (e : Event) :
    e.presses (keys ++ more) = (e.presses keys || e.presses more) := by
  cases e with
  | key report => simp [presses, Bool.and_or_distrib_left]
  | resize | focusGained | focusLost | paste | mouse => rfl

def keysOf (bindings : List (Binding × Request)) (r : Request) : List Binding :=
  (bindings.filter (·.2 = r)).map (·.1)

/-- A report is about one key at most. -/
theorem Binding.eq_of_accepts {b other : Binding} {key : KeyEvent} (h : b.accepts key = true)
    (ho : other.accepts key = true) : b = other := by
  rw [accepts, Bool.and_eq_true, decide_eq_true_eq, decide_eq_true_eq] at h ho
  rw [Binding.mk.injEq]
  exact ⟨h.1.symm.trans ho.1, h.2.symm.trans ho.2⟩

/-- Where no key has two bindings, a request is made by its own keys and no others. -/
theorem requestIn_eq_iff {bindings : List (Binding × Request)} (hdistinct : (bindings.map (·.1)).Nodup)
    (key : KeyEvent) {r : Request} (hr : r ≠ .nothing) :
    requestIn bindings key = r ↔ (keysOf bindings r).any (·.accepts key) = true := by
  have hkeys : (keysOf bindings r).any (·.accepts key) = true ↔ ∃ b, (b, r) ∈ bindings ∧ b.accepts key = true := by
    simp [keysOf]
  rw [hkeys, requestIn]
  cases hf : bindings.find? (·.1.accepts key) with
  | none =>
    constructor
    · intro h
      exact absurd h.symm hr
    · rintro ⟨b, hb, ha⟩
      exact absurd ha (List.find?_eq_none.1 hf (b, r) hb)
  | some binding =>
    have hm := List.mem_of_find?_eq_some hf
    have ha : binding.1.accepts key = true := by simpa using List.find?_some hf
    constructor
    · rintro rfl
      exact ⟨binding.1, hm, ha⟩
    · rintro ⟨b, hb, hb'⟩
      obtain rfl : binding = (b, r) := List.inj_on_of_nodup_map hdistinct hm hb (Binding.eq_of_accepts ha hb')
      rfl

theorem requestOf_eq_iff (modalOpen : Bool) (e : Event) {r : Request} (hr : r ≠ .nothing) :
    requestOf modalOpen e = r ↔ e.presses (keysOf (if modalOpen then modalBindings else pageBindings) r) = true := by
  cases e with
  | key key =>
    by_cases hk : key.kind = .press
    · have hdistinct : ((if modalOpen then modalBindings else pageBindings).map (·.1)).Nodup := by
        cases modalOpen <;> decide
      simpa [requestOf, Event.presses, hk] using requestIn_eq_iff hdistinct key hr
    · simp [requestOf, Event.presses, hk, hr.symm]
  | resize | focusGained | focusLost | paste | mouse => simp [requestOf, Event.presses, hr.symm]

def deleteKeys : List Binding := [.alt 'd', .plain .delete, .char 'd']

/-- The keys that close what lies over the page. -/
def closeKeys : List Binding := [.plain .escape, .char 'n', .control 'c']

/-- The keys that move the focus from one button to the next one or to the one before. -/
def focusKeys : List Binding := [.plain .tab, .plain .right, .plain .backTab, .plain .left]

theorem requestOf_eq_delete_iff (e : Event) : requestOf false e = .page .delete ↔ e.presses deleteKeys = true :=
  requestOf_eq_iff false e (by decide)

theorem requestOf_eq_close_iff (e : Event) : requestOf true e = .modal .close ↔ e.presses closeKeys = true :=
  requestOf_eq_iff true e (by decide)

theorem requestOf_eq_confirm_iff (e : Event) : requestOf true e = .modal .confirm ↔ e.presses [.char 'y'] = true :=
  requestOf_eq_iff true e (by decide)

theorem requestOf_eq_submit_iff (e : Event) :
    requestOf true e = .modal .submit ↔ e.presses [.plain .enter] = true :=
  requestOf_eq_iff true e (by decide)

theorem requestOf_eq_focus_iff (e : Event) :
    requestOf true e = .modal .nextAction ∨ requestOf true e = .modal .previousAction ↔
      e.presses focusKeys = true := by
  have hkeys : focusKeys = keysOf modalBindings (.modal .nextAction) ++ keysOf modalBindings (.modal .previousAction) :=
    rfl
  rw [hkeys, Event.presses_append, Bool.or_eq_true]
  exact or_congr (requestOf_eq_iff true e (by decide)) (requestOf_eq_iff true e (by decide))

end TableDesk.Input
