import TableDesk.Proofs.Disk
import TableDesk.Proofs.Json.RoundTrip
import TableDesk.Settings

/-!
Settings come back from their file. A file may give any of the settings, in any order and among other members; the
ones that it leaves out are as in the default. The file that is written for some settings gives all of them, so that
reading it loses none, and the language that is set from outside replaces the one that is read and nothing else.
-/

namespace TableDesk

/-! ### Fields in any order -/

namespace Json

/-- What is found under a name does not depend on the order of the members. -/
theorem field?_perm {members others : List (Text × Value)} (h : members.Perm others) (name : String) :
    field? members name = field? others name := by
  have hfound := h.filter fun m => decide (m.1 = some name)
  unfold field?
  generalize members.filter (fun m => decide (m.1 = some name)) = found at hfound
  generalize others.filter (fun m => decide (m.1 = some name)) = expected at hfound
  match expected with
  | [] => rw [hfound.eq_nil]
  | [m] => rw [List.perm_singleton.1 hfound]
  | a :: b :: rest =>
    -- a name that is found twice is found twice in either order
    match found with
    | [] | [_] => exact absurd hfound.length_eq (by simp)
    | _ :: _ :: _ => rfl

/-- Members of other names make no difference. -/
theorem field?_append_of_not_mem (members : List (Text × Value)) {others : List (Text × Value)} {name : String}
    (h : ∀ m ∈ others, m.1 ≠ some name) : field? (members ++ others) name = field? members name := by
  have hnone : others.filter (fun m => decide (m.1 = some name)) = [] := by
    rw [List.filter_eq_nil_iff]
    exact fun m hm => by simpa using h m hm
  rw [field?, List.filter_append, hnone, List.append_nil]
  rfl

theorem mapM_field?_congr {members others : List (Text × Value)} {names : List String}
    (h : ∀ name ∈ names, field? members name = field? others name) :
    names.mapM (field? members) = names.mapM (field? others) := by
  induction names with
  | nil => rfl
  | cons name rest ih =>
    rw [List.mapM_cons, List.mapM_cons, h name List.mem_cons_self, ih fun other ho => h other (List.mem_cons_of_mem _ ho)]

end Json

/-! ### Valid values -/

/-- How a theme may be written: by its name, or as an object with nothing under its name. -/
inductive Theme.Written : Theme → Json.Value → Prop
  | name (t : Theme) : Written t (.text t.name)
  | key (t : Theme) : Written t (.object [(some t.name, .null)])

theorem Theme.ofName?_eq_some_iff {name : String} {t : Theme} : ofName? name = some t ↔ name = t.name := by
  unfold ofName?
  cases t <;> grind [Theme.name]

theorem Theme.ofValue?_eq_some_iff {v : Json.Value} {t : Theme} : ofValue? v = some t ↔ t.Written v := by
  constructor
  · intro h
    unfold ofValue? at h
    split at h
    · obtain rfl := ofName?_eq_some_iff.1 h
      exact .name t
    · obtain rfl := ofName?_eq_some_iff.1 h
      exact .key t
    · cases h
  · rintro (_ | _) <;> exact ofName?_eq_some_iff.2 rfl

namespace Settings

structure Given where
  theme : Option Theme
  language : Option String
  tablesFile : Option (Option Path)
  messagesDir : Option (Option Path)

namespace Given

/-- The members of an object that gives these settings. -/
def members (write : Theme → Json.Value) (g : Given) : List (Json.Text × Json.Value) :=
  (g.theme.map fun t => (some "theme", write t)).toList ++
    (g.language.map fun l => (some "language", .text l)).toList ++
    (g.tablesFile.map fun p => (some "tablesFile", .textOrNull p)).toList ++
    (g.messagesDir.map fun p => (some "messagesDir", .textOrNull p)).toList

/-- Other settings with these ones in their places. -/
def onto (g : Given) (s : Settings) : Settings where
  theme := g.theme.getD s.theme
  language := g.language.getD s.language
  tablesFile := g.tablesFile.getD s.tablesFile
  messagesDir := g.messagesDir.getD s.messagesDir

def all (s : Settings) : Given := ⟨some s.theme, some s.language, some s.tablesFile, some s.messagesDir⟩

theorem onto_all (s other : Settings) : (all s).onto other = s := rfl

def names : List String := ["theme", "language", "tablesFile", "messagesDir"]

theorem mapM_field?_members (write : Theme → Json.Value) (g : Given) :
    names.mapM (Json.field? (g.members write)) =
      some [g.theme.map write, g.language.map .text, g.tablesFile.map .textOrNull, g.messagesDir.map .textOrNull] := by
  obtain ⟨theme, language, tablesFile, messagesDir⟩ := g
  cases theme <;> cases language <;> cases tablesFile <;> cases messagesDir <;> rfl

/-- Every member has a text for a name. -/
theorem isSome_of_mem_members {write : Theme → Json.Value} {g : Given} {m : Json.Text × Json.Value}
    (h : m ∈ g.members write) : m.1.isSome = true := by
  simp only [members, List.mem_append, Option.mem_toList, Option.map_eq_some_iff] at h
  obtain ((⟨_, -, rfl⟩ | ⟨_, -, rfl⟩) | ⟨_, -, rfl⟩) | ⟨_, -, rfl⟩ := h <;> rfl

end Given

/-! ### Reading -/

theorem nullable?_textOrNull (p : Option String) : Json.Value.nullable? Json.Value.text? (.textOrNull p) = some p := by
  cases p <;> rfl

/-- Reading a field that is given takes its value, and otherwise the default one. -/
theorem withDefault_map {α : Type} {read : Json.Value → Option α} {write : α → Json.Value}
    (h : ∀ a, read (write a) = some a) (default : α) (given : Option α) :
    Json.withDefault read default (given.map write) = some (given.getD default) := by
  cases given with
  | none => rfl
  | some a => exact h a

/-- An object gives the settings that it has members for. The order of the members and other members make no
difference. -/
theorem ofValue?_object {g : Given} {write : Theme → Json.Value} (hwrite : ∀ t : Theme, t.Written (write t))
    {others : List (String × Json.Value)} (hothers : ∀ m ∈ others, m.1 ∉ Given.names)
    {members : List (Json.Text × Json.Value)}
    (hmembers : members.Perm (g.members write ++ others.map fun m => (some m.1, m.2))) :
    ofValue? (.object members) = some (g.onto default) := by
  have hnames : ∀ m ∈ members, m.1.isSome = true := by
    intro m hm
    rcases List.mem_append.1 (hmembers.subset hm) with hm | hm
    · exact Given.isSome_of_mem_members hm
    · obtain ⟨other, -, rfl⟩ := List.mem_map.1 hm
      rfl
  have hfield : ∀ name ∈ Given.names, Json.field? members name = Json.field? (g.members write) name := by
    intro name hname
    rw [Json.field?_perm hmembers, Json.field?_append_of_not_mem]
    rintro m hm he
    obtain ⟨other, ho, rfl⟩ := List.mem_map.1 hm
    exact hothers other ho (Option.some.inj he ▸ hname)
  have hfields : Json.recordFields? ["theme", "language", "tablesFile", "messagesDir"] (.object members) =
      some [g.theme.map write, g.language.map .text, g.tablesFile.map .textOrNull, g.messagesDir.map .textOrNull] := by
    rw [← g.mapM_field?_members write, Json.recordFields?, Json.objectFields?, if_pos (List.all_eq_true.2 hnames)]
    exact Json.mapM_field?_congr hfield
  have htheme := withDefault_map (fun t => Theme.ofValue?_eq_some_iff.2 (hwrite t)) default.theme g.theme
  have hlanguage : Json.withDefault Json.Value.text? default.language (g.language.map .text) =
      some (g.language.getD default.language) :=
    withDefault_map (fun l => show Json.Value.text? (.text l) = some l from rfl) default.language g.language
  have htables := withDefault_map nullable?_textOrNull none g.tablesFile
  have hmessages := withDefault_map nullable?_textOrNull none g.messagesDir
  simp only [ofValue?, hfields, htheme, hlanguage, htables, hmessages, Option.bind_eq_bind, Option.bind_some]
  rfl

/-- What is loaded is what the file says, in the language that is set from outside if there is one. -/
theorem load_of_read {path : Path} {disk : Disk} {content : String} {s : Settings} (hc : disk.contains path = true)
    (hr : disk.read path = .ok content) (hs : (Json.parse? content).bind ofValue? = some s)
    (language : Option String) : (load path language disk).1 = .ok { s with language := language.getD s.language } := by
  have hread : read path disk = (.ok s, []) := by
    rw [read, if_pos hc, hr]
    simp only [hs]
  simp only [load, hread]
  cases language <;> rfl

/-! ### Writing -/

theorem toJson_eq (s : Settings) : s.toJson = .object ((Given.all s).members fun t => .text t.name) := rfl

theorem spelled_toJson (s : Settings) : s.toJson.Spelled := by
  have hnull : ∀ p : Option Path, (Json.Value.textOrNull p).Spelled := by
    intro p
    cases p with
    | none => exact .null
    | some p => exact .string _
  refine .object _ fun m hm => ?_
  simp only [List.mem_cons, List.not_mem_nil, or_false] at hm
  rcases hm with rfl | rfl | rfl | rfl
  · exact .string _
  · exact .string _
  · exact hnull s.tablesFile
  · exact hnull s.messagesDir

theorem ofValue?_toJson (s : Settings) : ofValue? s.toJson = some s := by
  have hothers : ∀ m ∈ ([] : List (String × Json.Value)), m.1 ∉ Given.names := fun _ hm => absurd hm List.not_mem_nil
  rw [toJson_eq, ofValue?_object Theme.Written.name hothers (by rw [List.map_nil, List.append_nil]), Given.onto_all]

/-- Saving makes the folder above the file, and then writes the file or fails. -/
theorem save_cases (path : Path) (s : Settings) (disk : Disk) :
    (∃ e, save path s disk = (.error e, (disk.makeParent path).2)) ∨
      ∃ written, (disk.makeParent path).2.write path s.toJson.pretty = .ok written ∧
        save path s disk = (.ok (), written) := by
  unfold save Disk.makeParent
  cases path.parent? with
  | none =>
    cases hw : disk.write path s.toJson.pretty with
    | error e => exact .inl ⟨_, by simp only [hw]; rfl⟩
    | ok written => exact .inr ⟨written, rfl, by simp only [hw]⟩
  | some folder =>
    rcases hm : disk.makeFolders folder with ⟨_ | _, made⟩
    · exact .inl ⟨_, by simp only [hm]; rfl⟩
    · cases hw : made.write path s.toJson.pretty with
      | error e => exact .inl ⟨_, by simp only [hm, hw]; rfl⟩
      | ok written => exact .inr ⟨written, by simp only [hm, hw], by simp only [hm, hw]⟩

/-- Settings that have been saved are loaded again, whatever the file held before, and a language that is set from
outside replaces theirs. A file with an object that gives some of the settings, each once and in any order, among other
members, is loaded as the default with these settings in their places. -/
theorem saved_settings_load_back :
    (∀ (path : Path) (s : Settings) (disk disk' : Disk), save path s disk = (.ok (), disk') →
      (load path none disk').1 = .ok s ∧
        ∀ language, (load path (some language) disk').1 = .ok { s with language }) ∧
      ∀ (g : Given) (write : Theme → Json.Value), (∀ t : Theme, t.Written (write t)) →
        ∀ others : List (String × Json.Value), (∀ m ∈ others, m.1 ∉ Given.names) →
        ∀ members, members.Perm (g.members write ++ others.map fun m => (some m.1, m.2)) →
        ∀ (path : Path) (disk : Disk) (content : String), disk.contains path = true → disk.read path = .ok content →
          Json.parse? content = some (.object members) → (load path none disk).1 = .ok (g.onto default) := by
  constructor
  · intro path s disk disk' h
    obtain ⟨hc, hr⟩ : disk'.contains path = true ∧ disk'.read path = .ok s.toJson.pretty := by
      rcases save_cases path s disk with ⟨e, he⟩ | ⟨written, hw, hs⟩
      · rw [he] at h
        cases h
      · obtain rfl : written = disk' := congrArg Prod.snd (hs.symm.trans h)
        exact Disk.read_of_write hw
    have hs : (Json.parse? s.toJson.pretty).bind ofValue? = some s := by
      rw [Json.parse?_pretty s.spelled_toJson, Option.bind_some, ofValue?_toJson]
    exact ⟨load_of_read hc hr hs none, fun language => load_of_read hc hr hs (some language)⟩
  · intro g write hwrite others hothers members hmembers path disk content hc hr hp
    have hs : (Json.parse? content).bind ofValue? = some (g.onto default) := by
      rw [hp, Option.bind_some, ofValue?_object hwrite hothers hmembers]
    exact load_of_read hc hr hs none

/-- A file that gives the theme and leaves a folder open, with a member between them that means nothing. -/
def lightFile : String := "\x7b\"messagesDir\":null,\"x\":1,\"theme\":\x7b\"light\":null\x7d\x7d"

/-- Settings with an empty path and a quote in the language are saved over something that is no object. -/
theorem light_settings_load_back :
    let s : Settings := ⟨.light, "\"zh\n", some "", none⟩
    let old : Disk := Disk.empty.put ["d", "config.json"] (.text "[")
    (∃ saved, save "d/config.json" s old = (.ok (), saved) ∧ (load "d/config.json" none saved).1 = .ok s ∧
      (load "d/config.json" (some "zh-CN") saved).1 = .ok ⟨.light, "zh-CN", some "", none⟩) ∧
      (load "config.json" none (Disk.empty.put ["config.json"] (.text lightFile))).1 =
        .ok ⟨.light, "en-US", none, none⟩ := by
  intro s old
  obtain ⟨hsaved, hgiven⟩ := saved_settings_load_back
  constructor
  · have hs : save "d/config.json" s old = (.ok (), (save "d/config.json" s old).2) := by rfl
    obtain ⟨hnone, hlanguage⟩ := hsaved _ _ _ _ hs
    exact ⟨_, hs, hnone, hlanguage "zh-CN"⟩
  · let unset : Json.Text × Json.Value := (some "messagesDir", .null)
    let unknown : Json.Text × Json.Value := (some "x", .number "1")
    let theme : Json.Text × Json.Value := (some "theme", .object [(some "light", .null)])
    have hparse : Json.parse? lightFile = some (.object ([unset, unknown] ++ [theme])) := by rfl
    have hmembers : ([unset, unknown] ++ [theme]).Perm ([theme] ++ [unset, unknown]) := List.perm_append_comm
    exact hgiven ⟨some .light, none, none, some none⟩ (fun t => .object [(some t.name, .null)]) Theme.Written.key
      [("x", .number "1")] (by decide) _ hmembers "config.json" _ lightFile (by rfl) (by rfl) hparse

end Settings

end TableDesk
