import TableDesk.Proofs.Json.RoundTrip
import TableDesk.Table

/-!
Tables read back from their JSON form. What is left out of it comes back as unknown, and a number of rows as the
number that was written.
-/

namespace TableDesk

/-- The digits of a number give the number. -/
theorem Text.readDigits_toDigits (n : Nat) : Text.readDigits (Nat.toDigits 10 n) = some n := by
  have hall : (Nat.toDigits 10 n).all (·.isDigit) = true :=
    List.all_eq_true.2 fun _ hc => Nat.isDigit_of_mem_toDigits (by decide) (by decide) hc
  have hvalue : (Nat.toDigits 10 n).foldl (fun n c => 10 * n + (c.toNat - 48)) 0 = n := Nat.ofDigitChars_ten_toDigits
  cases hd : Nat.toDigits 10 n with
  | nil => exact absurd hd Nat.toDigits_ne_nil
  | cons c rest =>
    rw [hd] at hall hvalue
    simp only [Text.readDigits]
    rw [if_pos hall, hvalue]

namespace Json

theorem Value.spelled_nat (n : Nat) : (Value.nat n).Spelled := by
  refine .number ?_
  rw [Nat.toString_eq_repr, Nat.toList_repr]
  exact isNumber_toDigits n

theorem Value.word?_nat (n : UInt64) : (Value.nat n.toNat).word? = some n := by
  have hsize : n.toNat < UInt64.size := n.toNat_lt
  rw [Value.nat, Value.word?, Nat.toString_eq_repr, Nat.toList_repr, Text.readDigits_toDigits]
  simp only [Option.filter_some, hsize, decide_true, if_true, Option.map_some]
  rw [Nat.toUInt64, UInt64.ofNat_toNat]

end Json

namespace Table

open Json

theorem spelled_toJson (t : Table) : t.toJson.Spelled := by
  refine .object _ fun m hm => ?_
  rcases List.mem_append.1 hm with hm | hm
  · rcases List.mem_append.1 hm with hm | hm
    · obtain ⟨p, -, rfl⟩ := Option.map_eq_some_iff.1 (Option.mem_toList.1 hm)
      exact .string _
    · rw [List.mem_singleton.1 hm]
      exact .string _
  · obtain ⟨n, -, rfl⟩ := Option.map_eq_some_iff.1 (Option.mem_toList.1 hm)
    exact Value.spelled_nat _

theorem field?_plugin (t : Table) : field? t.members "plugin" = some (t.plugin.map .text) := by
  obtain ⟨plugin, name, rows⟩ := t
  cases plugin <;> cases rows <;> rfl

theorem field?_table (t : Table) : field? t.members "table" = some (some (.text t.name)) := by
  obtain ⟨plugin, name, rows⟩ := t
  cases plugin <;> cases rows <;> rfl

theorem field?_rows (t : Table) : field? t.members "rows" = some (t.rows.map fun n => .nat n.toNat) := by
  obtain ⟨plugin, name, rows⟩ := t
  cases plugin <;> cases rows <;> rfl

/-- A table is read back from its JSON form. -/
theorem ofValue?_toJson (t : Table) : ofValue? t.toJson = some t := by
  have htext : ∀ m ∈ t.members, m.1.isSome = true := by
    obtain ⟨plugin, name, rows⟩ := t
    cases plugin <;> cases rows <;> simp [members]
  have hfields : recordFields? ["plugin", "table", "rows"] t.toJson =
      some [t.plugin.map .text, some (.text t.name), t.rows.map fun n => .nat n.toNat] := by
    rw [toJson, recordFields?, objectFields?, if_pos (List.all_eq_true.2 htext)]
    simp [field?_plugin, field?_table, field?_rows]
  have hplugin : withDefault (Value.nullable? Value.text?) none (t.plugin.map .text) = some t.plugin := by
    cases t.plugin <;> rfl
  have hrows : withDefault (Value.nullable? Value.word?) none (t.rows.map fun n => .nat n.toNat) = some t.rows := by
    cases t.rows with
    | none => rfl
    | some n => exact congrArg (Option.map some) (Value.word?_nat n)
  simp only [ofValue?, hfields, hplugin, hrows, Option.bind_eq_bind, Option.bind_some]
  rfl

/-- A list of tables is read back from its JSON form. -/
theorem listOfValue?_listToJson (tables : List Table) : listOfValue? (listToJson tables) = some tables := by
  have hitems : (tables.map toJson).mapM ofValue? = some tables := by
    induction tables with
    | nil => rfl
    | cons t rest ih => simp [ofValue?_toJson, ih]
  exact hitems

theorem spelled_listToJson (tables : List Table) : (listToJson tables).Spelled := by
  refine .array _ fun v hv => ?_
  obtain ⟨t, -, rfl⟩ := List.mem_map.1 hv
  exact t.spelled_toJson

end Table

end TableDesk
