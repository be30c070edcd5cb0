import Mathlib.Data.List.Induction
import Mathlib.Data.List.Nodup
import Mathlib.Data.Option.Basic
import TableDesk.Proofs.Group

/-!
Which groups grouping makes. There is one group for each plugin, in the order in which the plugins first
appear, and after them one for the tables of unknown plugins if there are any; each holds exactly the tables
of its plugin, in their order. So no group is empty and no plugin has two groups.
-/

namespace TableDesk.Group

def ofPlugin (tables : List Table) (plugin : Option String) : Group :=
  ⟨.fresh, plugin, tables.filter (·.plugin = plugin)⟩

/-- The known plugins of some tables, in the order in which they first appear. -/
def knownPlugins (tables : List Table) : List String := (tables.filterMap (·.plugin)).eraseDups

/-- The plugins of some tables, with that of the unowned ones last. -/
def plugins (tables : List Table) : List (Option String) :=
  (knownPlugins tables).map some ++ if ∃ t ∈ tables, t.plugin = none then [none] else []

theorem ofPlugin_concat (tables : List Table) (t : Table) (plugin : Option String) :
    ofPlugin (tables ++ [t]) plugin =
      ⟨.fresh, plugin, (ofPlugin tables plugin).tables ++ if t.plugin = plugin then [t] else []⟩ := by
  by_cases h : t.plugin = plugin <;> simp [ofPlugin, h]

theorem ofPlugin_concat_of_ne (tables : List Table) {t : Table} {plugin : Option String} (h : t.plugin ≠ plugin) :
    ofPlugin (tables ++ [t]) plugin = ofPlugin tables plugin := by
  simp [ofPlugin, h]

/-! ### The known plugins -/

theorem eraseDups_concat (names : List String) (name : String) :
    (names ++ [name]).eraseDups = names.eraseDups ++ if name ∈ names then [] else [name] := by
  rw [List.eraseDups_append]
  by_cases h : name ∈ names <;> simp [List.removeAll, h, List.eraseDups_cons]

theorem nodup_eraseDups (names : List String) : names.eraseDups.Nodup := by
  induction names using List.reverseRecOn with
  | nil => simp
  | append_singleton rest name ih =>
    rw [eraseDups_concat]
    split
    · simpa using ih
    next h =>
      refine List.nodup_append.2 ⟨ih, by simp, ?_⟩
      intro other ho last hl he
      rw [List.mem_eraseDups] at ho
      rw [List.mem_singleton] at hl
      exact h (hl ▸ he ▸ ho)

theorem nodup_knownPlugins (tables : List Table) : (knownPlugins tables).Nodup := nodup_eraseDups _

theorem mem_knownPlugins {tables : List Table} {plugin : String} :
    plugin ∈ knownPlugins tables ↔ ∃ t ∈ tables, t.plugin = some plugin := by
  simp [knownPlugins]

theorem knownPlugins_concat_some (tables : List Table) {t : Table} {plugin : String} (h : t.plugin = some plugin) :
    knownPlugins (tables ++ [t]) =
      knownPlugins tables ++ if plugin ∈ knownPlugins tables then [] else [plugin] := by
  simp [knownPlugins, h, eraseDups_concat]

theorem knownPlugins_concat_none (tables : List Table) {t : Table} (h : t.plugin = none) :
    knownPlugins (tables ++ [t]) = knownPlugins tables := by
  simp [knownPlugins, h]

/-! ### The groups -/

/-- One more table of a known plugin goes to the group of the plugin, or opens a group at the end. -/
theorem addKnown_map_ofPlugin {names : List String} (hn : names.Nodup) (tables : List Table) {t : Table}
    {plugin : String} (hp : t.plugin = some plugin) :
    addKnown plugin t (names.map fun name => ofPlugin tables (some name)) =
      names.map (fun name => ofPlugin (tables ++ [t]) (some name)) ++
        if plugin ∈ names then [] else [⟨.fresh, some plugin, [t]⟩] := by
  induction names with
  | nil => rfl
  | cons name rest ih =>
    obtain ⟨hname, hrest⟩ := List.nodup_cons.1 hn
    rw [List.map_cons, addKnown]
    by_cases he : name = plugin
    · -- the group of the plugin stands here, and the groups behind it have other plugins
      subst he
      have hothers : rest.map (fun other => ofPlugin (tables ++ [t]) (some other)) =
          rest.map fun other => ofPlugin tables (some other) := by
        refine List.map_congr_left fun other ho => ofPlugin_concat_of_ne tables ?_
        rw [hp]
        exact fun h => hname (Option.some.inj h ▸ ho)
      rw [List.map_cons, hothers, ofPlugin_concat]
      simp [hp, ofPlugin]
    · have hne : (ofPlugin tables (some name)).plugin ≠ some plugin := fun h => he (Option.some.inj h)
      have hnot : t.plugin ≠ some name := by rw [hp]; exact fun h => he (Option.some.inj h).symm
      rw [if_neg hne, ih hrest, List.map_cons, ofPlugin_concat_of_ne tables hnot]
      simp [Ne.symm he]

theorem known_eq (tables : List Table) :
    known tables = (knownPlugins tables).map fun plugin => ofPlugin tables (some plugin) := by
  induction tables using List.reverseRecOn with
  | nil => rfl
  | append_singleton tables t ih =>
    have hstep : known (tables ++ [t]) = addTable (known tables) t := by simp [known]
    rw [hstep, ih]
    cases hp : t.plugin with
    | none =>
      simp only [addTable, hp, knownPlugins_concat_none]
      exact List.map_congr_left fun plugin _ => (ofPlugin_concat_of_ne tables (by simp [hp])).symm
    | some plugin =>
      simp only [addTable, hp]
      rw [addKnown_map_ofPlugin (nodup_knownPlugins tables) tables hp, knownPlugins_concat_some tables hp,
        List.map_append]
      congr 1
      split
      · rfl
      next hnew =>
        have hnone : tables.filter (·.plugin = some plugin) = [] := by
          rw [List.filter_eq_nil_iff]
          intro other ho
          simpa using fun h => hnew (mem_knownPlugins.2 ⟨other, ho, h⟩)
        simp [ofPlugin, hp, hnone]

theorem unknown_eq (tables : List Table) :
    unknown tables = if ∃ t ∈ tables, t.plugin = none then [ofPlugin tables none] else [] := by
  have hfilter : tables.filter (·.plugin.isNone) = (ofPlugin tables none).tables := by
    exact List.filter_congr fun t _ => by cases t.plugin <;> rfl
  unfold unknown
  split
  next h => rw [if_neg (by simpa [List.filter_eq_nil_iff] using h)]
  next h =>
    have hsome : ∃ t ∈ tables, t.plugin = none := by
      simpa [List.filter_eq_nil_iff] using h
    rw [if_pos hsome, hfilter]
    rfl

/-- Grouping makes one group of each plugin. -/
theorem ofTables_eq (tables : List Table) : ofTables tables = (plugins tables).map (ofPlugin tables) := by
  rw [ofTables, known_eq, unknown_eq, plugins, List.map_append, List.map_map]
  congr 1
  split <;> rfl

theorem nodup_plugins (tables : List Table) : (plugins tables).Nodup := by
  have hknown : ((knownPlugins tables).map some).Nodup :=
    (nodup_knownPlugins tables).map (Option.some_injective String)
  unfold plugins
  split
  · exact List.nodup_append.2 ⟨hknown, by simp, by simp⟩
  · simpa using hknown

/-- Every plugin that gets a group has a table. -/
theorem mem_plugins {tables : List Table} {plugin : Option String} :
    plugin ∈ plugins tables ↔ ∃ t ∈ tables, t.plugin = plugin := by
  cases plugin with
  | none => by_cases h : ∃ t ∈ tables, t.plugin = none <;> simp [plugins, h]
  | some plugin =>
    have : some plugin ∈ plugins tables ↔ plugin ∈ knownPlugins tables := by
      unfold plugins
      split <;> simp
    rw [this, mem_knownPlugins]

/-! ### What holds of the groups on the page -/

/-- Groups as grouping makes them, folded or not. -/
structure WellFormed (groups : List Group) : Prop where
  nonempty : ∀ g ∈ groups, g.tables ≠ []
  owned : ∀ g ∈ groups, ∀ t ∈ g.tables, t.plugin = g.plugin
  distinct : (groups.map (·.plugin)).Nodup
  known_before_unknown : ∀ g ∈ groups.dropLast, g.plugin ≠ none

theorem ofTables_wellFormed (tables : List Table) : WellFormed (ofTables tables) := by
  rw [ofTables_eq]
  refine ⟨?_, ?_, ?_, ?_⟩
  · intro g hg
    obtain ⟨plugin, hp, rfl⟩ := List.mem_map.1 hg
    obtain ⟨t, ht, htp⟩ := mem_plugins.1 hp
    exact List.ne_nil_of_mem (List.mem_filter.2 ⟨ht, by simpa using htp⟩)
  · intro g hg t ht
    obtain ⟨plugin, -, rfl⟩ := List.mem_map.1 hg
    exact of_decide_eq_true (List.mem_filter.1 ht).2
  · have hplugin : (fun g : Group => g.plugin) ∘ ofPlugin tables = id := rfl
    rw [List.map_map, hplugin, List.map_id]
    exact nodup_plugins tables
  · intro g hg
    rw [← List.map_dropLast] at hg
    obtain ⟨plugin, hp, rfl⟩ := List.mem_map.1 hg
    have hknown : plugin ∈ (knownPlugins tables).map some := by
      unfold plugins at hp
      split at hp
      · rwa [List.dropLast_concat] at hp
      · exact List.dropLast_subset _ (by simpa using hp)
    obtain ⟨name, -, rfl⟩ := List.mem_map.1 hknown
    exact Option.some_ne_none name

/-- Folding and unfolding keep groups well-formed. -/
theorem WellFormed.of_contents {groups others : List Group} (h : WellFormed groups)
    (he : others.map (fun g => (g.plugin, g.tables)) = groups.map fun g => (g.plugin, g.tables)) :
    WellFormed others := by
  have hmem : ∀ g ∈ others, ∃ g' ∈ groups, g'.plugin = g.plugin ∧ g'.tables = g.tables := by
    intro g hg
    obtain ⟨g', hg', hc⟩ := List.mem_map.1 (he ▸ List.mem_map_of_mem hg)
    exact ⟨g', hg', congrArg Prod.fst hc, congrArg Prod.snd hc⟩
  have hplugins : others.map (·.plugin) = groups.map (·.plugin) := by
    simpa [Function.comp_def] using congrArg (List.map Prod.fst) he
  refine ⟨?_, ?_, hplugins ▸ h.distinct, ?_⟩
  · intro g hg
    obtain ⟨g', hg', -, ht⟩ := hmem g hg
    exact ht ▸ h.nonempty g' hg'
  · intro g hg t ht
    obtain ⟨g', hg', hp, hts⟩ := hmem g hg
    exact hp ▸ h.owned g' hg' t (hts ▸ ht)
  · intro g hg
    have hlast : g.plugin ∈ (groups.map (·.plugin)).dropLast := by
      rw [← hplugins, ← List.map_dropLast]
      exact List.mem_map_of_mem hg
    rw [← List.map_dropLast] at hlast
    obtain ⟨g', hg', hp⟩ := List.mem_map.1 hlast
    exact hp ▸ h.known_before_unknown g' hg'

end TableDesk.Group
