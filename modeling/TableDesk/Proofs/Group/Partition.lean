import TableDesk.Proofs.Group.Plugins

/-!
Grouping as a partition. Tables that come plugin by plugin, those of unknown plugins last, are grouped just as
they come; so grouping the tables of all groups once more gives the same groups. Apart from that, grouping only
sorts the tables by plugin, with the order of each plugin's tables kept.
-/

namespace TableDesk.Group

/-! ### Tables that come group by group -/

theorem addKnown_append {plugin : String} (t : Table) {before : List Group}
    (h : ∀ g ∈ before, g.plugin ≠ some plugin) (after : List Group) :
    addKnown plugin t (before ++ after) = before ++ addKnown plugin t after := by
  induction before with
  | nil => rfl
  | cons g rest ih =>
    rw [List.cons_append, addKnown, if_neg (h g List.mem_cons_self),
      ih fun other ho => h other (List.mem_cons_of_mem g ho), List.cons_append]

/-- Tables of the plugin of the last group are added to that group. -/
theorem foldl_addTable_last {plugin : String} {tables : List Table} (ht : ∀ t ∈ tables, t.plugin = some plugin)
    {before : List Group} (h : ∀ g ∈ before, g.plugin ≠ some plugin) (first : List Table) :
    tables.foldl addTable (before ++ [⟨.fresh, some plugin, first⟩]) =
      before ++ [⟨.fresh, some plugin, first ++ tables⟩] := by
  induction tables generalizing first with
  | nil => simp
  | cons t rest ih =>
    have hstep : addTable (before ++ [⟨.fresh, some plugin, first⟩]) t =
        before ++ [⟨.fresh, some plugin, first ++ [t]⟩] := by
      rw [addTable, ht t List.mem_cons_self]
      simp [addKnown_append t h, addKnown]
    rw [List.foldl_cons, hstep, ih fun other ho => ht other (List.mem_cons_of_mem t ho)]
    simp

/-- The tables of a plugin that has no group yet become the last group. -/
theorem foldl_addTable_new {plugin : String} {tables : List Table} (ht : ∀ t ∈ tables, t.plugin = some plugin)
    (hne : tables ≠ []) {before : List Group} (h : ∀ g ∈ before, g.plugin ≠ some plugin) :
    tables.foldl addTable before = before ++ [⟨.fresh, some plugin, tables⟩] := by
  obtain ⟨t, rest, rfl⟩ := List.exists_cons_of_ne_nil hne
  have hstep : addTable before t = before ++ [⟨.fresh, some plugin, [t]⟩] := by
    rw [addTable, ht t List.mem_cons_self]
    simpa [addKnown] using addKnown_append t h []
  rw [List.foldl_cons, hstep, foldl_addTable_last (fun other ho => ht other (List.mem_cons_of_mem t ho)) h]
  rfl

theorem foldl_addTable_of_unowned {tables : List Table} (ht : ∀ t ∈ tables, t.plugin = none) (groups : List Group) :
    tables.foldl addTable groups = groups := by
  induction tables with
  | nil => rfl
  | cons t rest ih =>
    rw [List.foldl_cons, addTable, ht t List.mem_cons_self]
    exact ih fun other ho => ht other (List.mem_cons_of_mem t ho)

theorem WellFormed.of_append {groups more : List Group} (h : WellFormed (groups ++ more)) : WellFormed groups where
  nonempty g hg := h.nonempty g (List.mem_append_left more hg)
  owned g hg := h.owned g (List.mem_append_left more hg)
  distinct := (List.nodup_append.1 (by simpa using h.distinct)).1
  known_before_unknown g hg := by
    refine h.known_before_unknown g ?_
    cases more with
    | nil => simpa using hg
    | cons first rest =>
      rw [List.dropLast_append_cons]
      exact List.mem_append_left _ (List.dropLast_subset groups hg)

/-- The tables of further groups, one group after the other, become these groups. -/
theorem foldl_addTable_flatMap {groups before : List Group} (h : WellFormed (before ++ groups))
    (hknown : ∀ g ∈ groups, g.plugin ≠ none) (hfolded : ∀ g ∈ groups, g.row = .fresh) :
    (groups.flatMap (·.tables)).foldl addTable before = before ++ groups := by
  induction groups generalizing before with
  | nil => simp
  | cons g rest ih =>
    have hmem : g ∈ before ++ g :: rest := List.mem_append_right before List.mem_cons_self
    obtain ⟨plugin, hp⟩ := Option.ne_none_iff_exists'.1 (hknown g List.mem_cons_self)
    have hg : g = ⟨.fresh, some plugin, g.tables⟩ := by
      rw [← hp, ← hfolded g List.mem_cons_self]
    have hbefore : ∀ other ∈ before, other.plugin ≠ some plugin := by
      intro other ho he
      have hdistinct := h.distinct
      rw [List.map_append, List.nodup_append] at hdistinct
      exact hdistinct.2.2 _ (List.mem_map_of_mem ho) _ (List.mem_map_of_mem List.mem_cons_self) (he.trans hp.symm)
    have hstep : g.tables.foldl addTable before = before ++ [g] := by
      rw [foldl_addTable_new (fun t ht => (h.owned g hmem t ht).trans hp) (h.nonempty g hmem) hbefore, ← hg]
    have hrest : WellFormed (before ++ [g] ++ rest) := by simpa using h
    rw [List.flatMap_cons, List.foldl_append, hstep, ih hrest (fun other ho => hknown other (List.mem_cons_of_mem g ho))
      fun other ho => hfolded other (List.mem_cons_of_mem g ho)]
    simp

/-! ### Grouping once more -/

theorem known_flatMap {groups : List Group} (h : WellFormed groups) (hknown : ∀ g ∈ groups, g.plugin ≠ none)
    (hfolded : ∀ g ∈ groups, g.row = .fresh) : known (groups.flatMap (·.tables)) = groups :=
  foldl_addTable_flatMap h hknown hfolded

theorem owned_of_mem_flatMap {groups : List Group} (h : WellFormed groups) (hknown : ∀ g ∈ groups, g.plugin ≠ none)
    {t : Table} (ht : t ∈ groups.flatMap (·.tables)) : t.plugin ≠ none := by
  obtain ⟨g, hg, htg⟩ := List.mem_flatMap.1 ht
  rw [h.owned g hg t htg]
  exact hknown g hg

/-- The tables of folded groups as grouping makes them are grouped as they were. -/
theorem WellFormed.ofTables_flatMap {groups : List Group} (h : WellFormed groups)
    (hfolded : ∀ g ∈ groups, g.row = .fresh) : ofTables (groups.flatMap (·.tables)) = groups := by
  rcases List.eq_nil_or_concat' groups with rfl | ⟨front, last, rfl⟩
  · rfl
  have hfront : ∀ g ∈ front, g.plugin ≠ none := by simpa using h.known_before_unknown
  have hlast : ∀ t ∈ last.tables, t.plugin = last.plugin := h.owned last (by simp)
  by_cases hp : last.plugin = none
  · -- the last group is the one of unknown plugins, which the other tables do not touch
    have howned : ∀ t ∈ front.flatMap (·.tables), t.plugin ≠ none := fun t ht =>
      owned_of_mem_flatMap h.of_append hfront ht
    have hunowned : ∀ t ∈ last.tables, t.plugin = none := fun t ht => (hlast t ht).trans hp
    have hknown : known ((front ++ [last]).flatMap (·.tables)) = front := by
      rw [List.flatMap_append, known, List.foldl_append, ← known,
        known_flatMap h.of_append hfront fun g hg => hfolded g (List.mem_append_left _ hg)]
      exact foldl_addTable_of_unowned (by simpa using hunowned) front
    have hunknown : unknown ((front ++ [last]).flatMap (·.tables)) = [last] := by
      have hfilter : ((front ++ [last]).flatMap (·.tables)).filter (·.plugin.isNone) = last.tables := by
        rw [List.flatMap_append, List.filter_append, List.filter_eq_nil_iff.2 (by simpa using howned)]
        simpa [List.filter_eq_self] using hunowned
      obtain ⟨t, rest, ht⟩ := List.exists_cons_of_ne_nil (h.nonempty last (by simp))
      rw [unknown, hfilter, ht]
      simp [← ht, ← hp, ← hfolded last (by simp)]
    rw [ofTables, hknown, hunknown]
  · have hall : ∀ g ∈ front ++ [last], g.plugin ≠ none := by
      simpa [or_imp, forall_and] using ⟨hfront, hp⟩
    have hunknown : unknown ((front ++ [last]).flatMap (·.tables)) = [] := by
      rw [unknown_eq, if_neg]
      rintro ⟨t, ht, hnone⟩
      exact owned_of_mem_flatMap h hall ht hnone
    rw [ofTables, known_flatMap h hall hfolded, hunknown, List.append_nil]

theorem row_of_mem_ofTables {tables : List Table} {g : Group} (hg : g ∈ ofTables tables) : g.row = .fresh := by
  rw [ofTables_eq] at hg
  obtain ⟨plugin, -, rfl⟩ := List.mem_map.1 hg
  rfl

theorem tables_of_mem_ofTables {tables : List Table} {g : Group} (hg : g ∈ ofTables tables) :
    g.tables = tables.filter (·.plugin = g.plugin) := by
  rw [ofTables_eq] at hg
  obtain ⟨plugin, -, rfl⟩ := List.mem_map.1 hg
  rfl

theorem map_plugin_ofTables (tables : List Table) : (ofTables tables).map (·.plugin) = plugins tables := by
  rw [ofTables_eq, List.map_map]
  exact List.map_id _

/-- Grouping sorts the tables by plugin. The groups are folded and hold a table at least; no two have one plugin;
each holds the tables of its plugin in their order. Known plugins come in the order in which they first appear, and
unknown ones last if there are any, so that no table is lost. Grouping the grouped tables changes nothing. -/
theorem ofTables_stable_partition (tables : List Table) :
    (∀ g ∈ ofTables tables, g.tables ≠ [] ∧ g.row.selected = false) ∧
      ((ofTables tables).map (·.plugin)).Nodup ∧
      (∀ g ∈ ofTables tables, g.tables = tables.filter (·.plugin = g.plugin)) ∧
      (ofTables tables).map (·.plugin) =
        (tables.filterMap (·.plugin)).eraseDups.map some ++ (if ∃ t ∈ tables, t.plugin = none then [none] else []) ∧
      ((ofTables tables).flatMap (·.tables)).Perm tables ∧
      ofTables ((ofTables tables).flatMap (·.tables)) = ofTables tables := by
  have h := ofTables_wellFormed tables
  exact ⟨fun g hg => ⟨h.nonempty g hg, ofTables_folded tables g hg⟩, h.distinct,
    fun g hg => tables_of_mem_ofTables hg, map_plugin_ofTables tables, ofTables_perm tables,
    h.ofTables_flatMap fun g hg => row_of_mem_ofTables hg⟩

/-- A plugin without a name is a plugin of its own, and tables of unknown plugins wait for the end. -/
theorem interleaved_stable_partition :
    let tables : List Table := [⟨none, "X", none⟩, ⟨some "P", "A", some 3⟩, ⟨some "", "Y", none⟩, ⟨none, "W", none⟩,
      ⟨some "P", "B", none⟩]
    let nameless : Group := ⟨.fresh, some "", [⟨some "", "Y", none⟩]⟩
    (ofTables tables).map (·.plugin) = [some "P", some "", none] ∧ nameless ∈ ofTables tables ∧
      (nameless.tables ≠ [] ∧ nameless.row.selected = false ∧ nameless.tables = tables.filter (·.plugin = some "")) ∧
      ofTables ((ofTables tables).flatMap (·.tables)) = ofTables tables := by
  intro tables nameless
  have hmem : nameless ∈ ofTables tables := by decide
  obtain ⟨hgroups, -, hfilter, hplugins, -, hagain⟩ := ofTables_stable_partition tables
  exact ⟨hplugins.trans (by decide), hmem, ⟨(hgroups nameless hmem).1, (hgroups nameless hmem).2, hfilter nameless hmem⟩,
    hagain⟩

end TableDesk.Group
