import TableDesk.Disk
import TableDesk.Failure
import TableDesk.Json.Printer
import TableDesk.Json.Reader
import TableDesk.Json.Record
import TableDesk.Log
import TableDesk.Message.Language
import TableDesk.Text.Quoted

/-!
The settings of the program and the file that keeps them. A file may leave out any of the settings;
the language can also be set from outside, which wins over the file.
-/

namespace TableDesk

inductive Theme where
  | dark
  | light
  deriving DecidableEq, Repr, Inhabited

namespace Theme

def name : Theme → String
  | .dark => "dark"
  | .light => "light"

def ofName? (name : String) : Option Theme :=
  if name = "dark" then some .dark else if name = "light" then some .light else none

/-- The theme that a value describes: its name, or an object with nothing under its name. -/
def ofValue? : Json.Value → Option Theme
  | .string (some name) => ofName? name
  | .object [(some name, .null)] => ofName? name
  | _ => none

end Theme

/-- The settings. What is not set is taken from the settings folder. -/
structure Settings where
  theme : Theme
  language : String
  tablesFile : Option Path
  messagesDir : Option Path
  deriving DecidableEq, Repr

namespace Settings

def default : Settings := ⟨.dark, Message.Language.english.code, none, none⟩

def toJson (s : Settings) : Json.Value :=
  .object [(some "theme", .text s.theme.name), (some "language", .text s.language),
    (some "tablesFile", .textOrNull s.tablesFile),
    (some "messagesDir", .textOrNull s.messagesDir)]

/-- The settings that a value describes. What is not given is as in the default. -/
def ofValue? (v : Json.Value) : Option Settings := do
  match ← Json.recordFields? ["theme", "language", "tablesFile", "messagesDir"] v with
  | [theme, language, tablesFile, messagesDir] =>
    return {
      theme := ← Json.withDefault Theme.ofValue? default.theme theme
      language := ← Json.withDefault Json.Value.text? default.language language
      tablesFile := ← Json.withDefault (Json.Value.nullable? Json.Value.text?) none tablesFile
      messagesDir := ← Json.withDefault (Json.Value.nullable? Json.Value.text?) none messagesDir }
  | _ => none

/-- The variable that sets the language from outside. -/
def languageVariable : String := "AO_ADMIN_LANG"

/-- The settings in the file at a path, the default where there is none. -/
def read (path : Path) (disk : Disk) : Except Failure Settings × List Log.Record :=
  if disk.contains path then
    match disk.read path with
    | .error e => (.error ⟨some s!"reading {path}", .system e⟩, [])
    | .ok content =>
      match (Json.parse? content).bind ofValue? with
      | none => (.error ⟨some s!"parsing {path}", .malformed "expected settings"⟩, [])
      | some s => (.ok s, [])
  else
    (.ok default, [⟨.info, .settings, s!"No config at {path}, using defaults"⟩])

/-- The settings with the language that is set from outside. -/
def override (language : Option String) (s : Settings) : Settings × List Log.Record :=
  match language with
  | none => (s, [])
  | some language =>
    ({ s with language },
      [⟨.info, .settings, s!"Language overridden by {languageVariable}: {language}"⟩])

def load (path : Path) (language : Option String) (disk : Disk) :
    Except Failure Settings × List Log.Record :=
  match read path disk with
  | (.error e, log) => (.error e, log)
  | (.ok s, log) =>
    let (s, more) := s.override language
    (.ok s, log ++ more)

/-- Writes the settings to the file at a path, making its folder first. -/
def save (path : Path) (s : Settings) (disk : Disk) : Except Failure Unit × Disk :=
  let made : Except Failure Unit × Disk := match path.parent? with
    | some folder =>
      match disk.makeFolders folder with
      | (.ok (), disk) => (.ok (), disk)
      | (.error e, disk) => (.error ⟨some s!"creating {folder}", .system e⟩, disk)
    | none => (.ok (), disk)
  match made with
  | (.error e, disk) => (.error e, disk)
  | (.ok (), disk) =>
    match disk.write path s.toJson.pretty with
    | .error e => (.error ⟨some s!"writing {path}", .system e⟩, disk)
    | .ok disk => (.ok (), disk)

/-- The language of the settings; a code that names none stands for English. -/
def resolvedLanguage (s : Settings) : Message.Language × List Log.Record :=
  match Message.Language.ofCode? s.language with
  | some language => (language, [])
  | none =>
    (.english,
      [⟨.warn, .settings, s!"Unknown language {Text.quoted s.language}, using default"⟩])

def fileIn (folder : Path) : Path := folder.join "config.json"

def resolvedTablesFile (s : Settings) (folder : Path) : Path :=
  s.tablesFile.getD (folder.join "tables.json")

def resolvedMessagesDir (s : Settings) (folder : Path) : Path :=
  s.messagesDir.getD folder

end Settings

end TableDesk
