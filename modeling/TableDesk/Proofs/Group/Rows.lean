import Mathlib.Algebra.GroupWithZero.Nat
import TableDesk.Proofs.Group.Partition

/-!
The rows of a group added up. In numbers of any size the sum always exists; in sixty-four bits it is that sum as long
as it fits. Where it does not fit, overflow checks leave no sum, and without them it is the remainder. Since a group
holds the tables of one plugin, whether all sums fit can be told from the tables before they are grouped.
-/

namespace TableDesk.Group

/-- The known numbers of rows of some tables, added up in numbers of any size. -/
def sumOfRows (tables : List Table) : Nat := ((tables.filterMap (·.rows)).map UInt64.toNat).sum

def rowSum (g : Group) : Nat := sumOfRows g.tables

theorem foldlM_add?_eq (overflow : Overflow) (total : UInt64) (rows : List UInt64) :
    rows.foldlM overflow.add? total =
      if overflow = .wraps ∨ total.toNat + (rows.map UInt64.toNat).sum < UInt64.size then
        some (.ofNat (total.toNat + (rows.map UInt64.toNat).sum))
      else none := by
  induction rows generalizing total with
  | nil => simp [total.toNat_lt]
  | cons n rest ih =>
    rw [List.foldlM_cons, List.map_cons, List.sum_cons, ← Nat.add_assoc]
    cases overflow with
    | wraps =>
      simp only [Overflow.add?, Option.bind_eq_bind, Option.bind_some, ih, true_or, if_true]
      rw [UInt64.ofNat_add, UInt64.ofNat_add (total.toNat + n.toNat), UInt64.ofNat_add total.toNat]
      simp only [UInt64.ofNat_toNat]
    | stops =>
      by_cases hfits : total.toNat + n.toNat < UInt64.size
      · have hsum : (total + n).toNat = total.toNat + n.toNat := by
          rw [UInt64.toNat_add, Nat.mod_eq_of_lt hfits]
        simp only [Overflow.add?, if_pos hfits, Option.bind_eq_bind, Option.bind_some, ih, hsum]
      · rw [if_neg (by simp; omega)]
        simp [Overflow.add?, hfits]

/-- The sum in sixty-four bits, and when there is none. -/
theorem totalRows?_eq (overflow : Overflow) (g : Group) :
    g.totalRows? overflow =
      if overflow = .wraps ∨ g.rowSum < UInt64.size then some (.ofNat g.rowSum) else none := by
  rw [totalRows?, foldlM_add?_eq, UInt64.toNat_zero, Nat.zero_add, rowSum, sumOfRows, knownRows]

theorem isSome_totalRows?_iff {overflow : Overflow} {g : Group} :
    (g.totalRows? overflow).isSome = true ↔ (overflow = .stops → g.rowSum < UInt64.size) := by
  rw [totalRows?_eq]
  cases overflow <;> simp

theorem eq_ofNat_of_totalRows? {overflow : Overflow} {g : Group} {total : UInt64}
    (h : g.totalRows? overflow = some total) : total = .ofNat g.rowSum := by
  rw [totalRows?_eq] at h
  split at h
  · exact (Option.some.inj h).symm
  · cases h

/-- All sums fit if the tables of each plugin have few enough rows. -/
theorem forall_rowSum_lt_iff {tables : List Table} {bound : Nat} (hbound : 0 < bound) :
    (∀ g ∈ ofTables tables, g.rowSum < bound) ↔
      ∀ plugin, sumOfRows (tables.filter (·.plugin = plugin)) < bound := by
  constructor
  · intro h plugin
    by_cases hplugin : plugin ∈ plugins tables
    · rw [← map_plugin_ofTables] at hplugin
      obtain ⟨g, hg, rfl⟩ := List.mem_map.1 hplugin
      exact tables_of_mem_ofTables hg ▸ h g hg
    · have hnone : tables.filter (·.plugin = plugin) = [] := by
        rw [List.filter_eq_nil_iff]
        intro t ht hp
        exact hplugin (mem_plugins.2 ⟨t, ht, of_decide_eq_true hp⟩)
      rw [hnone]
      exact hbound
  · intro h g hg
    rw [rowSum, tables_of_mem_ofTables hg]
    exact h g.plugin

/-- A sum of one more than the largest number either stops the program or is zero. -/
example : let g : Group := ⟨.fresh, some "P", [⟨some "P", "A", some 18446744073709551615⟩, ⟨some "P", "B", some 1⟩]⟩
    g.totalRows? .stops = none ∧ g.totalRows? .wraps = some 0 := by decide

end TableDesk.Group
