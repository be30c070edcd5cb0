import TableDesk.Table.Group

/-!
What grouping makes of a list of tables: groups that are folded, and that hold each table as often as the list.
-/

namespace TableDesk.Group

theorem addKnown_folded {plugin : String} {t : Table} {groups : List Group}
    (h : ∀ g ∈ groups, g.row.selected = false) : ∀ g ∈ addKnown plugin t groups, g.row.selected = false := by
  induction groups with
  | nil => simp [addKnown, Row.fresh]
  | cons first rest ih =>
    have hrest : ∀ g ∈ rest, g.row.selected = false := fun g hg => h g (List.mem_cons_of_mem _ hg)
    intro g hg
    rw [addKnown] at hg
    split at hg
    · rcases List.mem_cons.1 hg with rfl | hg
      · exact h first List.mem_cons_self
      · exact hrest g hg
    · rcases List.mem_cons.1 hg with rfl | hg
      · exact h g List.mem_cons_self
      · exact ih hrest g hg

theorem known_folded (tables : List Table) : ∀ g ∈ known tables, g.row.selected = false := by
  unfold known
  refine List.foldlRecOn tables _ (motive := fun groups : List Group => ∀ g ∈ groups, g.row.selected = false) (by simp) ?_
  intro groups h t _
  unfold addTable
  cases t.plugin with
  | none => exact h
  | some plugin => exact addKnown_folded h

/-- A new group is folded. -/
theorem ofTables_folded (tables : List Table) : ∀ g ∈ ofTables tables, g.row.selected = false := by
  intro g hg
  rcases List.mem_append.1 hg with hg | hg
  · exact known_folded tables g hg
  · unfold unknown at hg
    split at hg
    · simp at hg
    · rw [List.mem_singleton.1 hg]; rfl

/-! ### The tables of all groups -/

theorem addKnown_perm (plugin : String) (t : Table) (groups : List Group) :
    ((addKnown plugin t groups).flatMap (·.tables)).Perm (groups.flatMap (·.tables) ++ [t]) := by
  induction groups with
  | nil => simp [addKnown]
  | cons g rest ih =>
    rw [addKnown]
    split
    · simp only [List.flatMap_cons, List.append_assoc]
      exact List.perm_append_comm.append_left g.tables
    · simp only [List.flatMap_cons, List.append_assoc]
      exact ih.append_left g.tables

/-- The groups made so far hold the tables of known plugins that were passed. -/
theorem foldl_addTable_perm (tables : List Table) (groups : List Group) :
    ((tables.foldl addTable groups).flatMap (·.tables)).Perm
      (groups.flatMap (·.tables) ++ tables.filter (·.plugin.isSome)) := by
  induction tables generalizing groups with
  | nil => simp
  | cons t rest ih =>
    rw [List.foldl_cons]
    refine (ih _).trans ?_
    unfold addTable
    cases hp : t.plugin with
    | none => simp [hp]
    | some plugin => simpa [hp] using (addKnown_perm plugin t groups).append_right (rest.filter (·.plugin.isSome))

theorem known_perm (tables : List Table) :
    ((known tables).flatMap (·.tables)).Perm (tables.filter (·.plugin.isSome)) :=
  foldl_addTable_perm tables []

theorem unknown_flatMap (tables : List Table) :
    (unknown tables).flatMap (·.tables) = tables.filter (·.plugin.isNone) := by
  unfold unknown
  split
  next h => rw [h]; rfl
  next => simp

/-- Grouping loses no table and adds none. -/
theorem ofTables_perm (tables : List Table) : ((ofTables tables).flatMap (·.tables)).Perm tables := by
  have hnone : tables.filter (·.plugin.isNone) = tables.filter (!·.plugin.isSome) := by
    simp
  rw [ofTables, List.flatMap_append, unknown_flatMap, hnone]
  exact ((known_perm tables).append_right _).trans (List.filter_append_perm _ tables)

end TableDesk.Group
