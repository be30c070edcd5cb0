import TableDesk.Disk
import TableDesk.Failure
import TableDesk.Log
import TableDesk.Message.Catalog
import TableDesk.Message.Language

/-!
The messages of a language: the built-in texts with the templates of an override file laid over
them. The result is checked to hold every message of the program.
-/

namespace TableDesk.Message

namespace Language

def builtIn (language : Language) : Catalog :=
  .ofEntries (Key.all.map fun key => ⟨key.name, language.text key⟩)

def overrideFile (language : Language) (folder : Path) : Path :=
  folder.join s!"messages.{language.code}.json"

def overrides (path : Path) (disk : Disk) : Except Failure Catalog :=
  match disk.read path with
  | .error e => .error ⟨some s!"reading {path}", .system e⟩
  | .ok content =>
    match Catalog.ofJson content with
    | .error e => .error ⟨some s!"parsing {path}", .fault e⟩
    | .ok templates => .ok templates

/-- The catalog of a language under a folder of override files. -/
def load (language : Language) (folder : Option Path) (disk : Disk) :
    Except Failure Catalog × List Log.Record :=
  match folder with
  | none => (.ok language.builtIn, [])
  | some folder =>
    let path := language.overrideFile folder
    if disk.contains path then
      match overrides path disk with
      | .error e => (.error e, [])
      | .ok templates =>
        (.ok (language.builtIn.merge templates),
          [⟨.info, .localization, s!"Loaded {templates.size} message overrides from {path}"⟩])
    else (.ok language.builtIn, [])

end Language

/-- The first message of the program that a catalog lacks. -/
def Catalog.missing? (catalog : Catalog) : Option Key :=
  Key.all.find? fun key => !catalog.contains key.name

/-- The checked catalog of a language. -/
def Language.loadComplete (language : Language) (folder : Option Path) (disk : Disk) :
    Except Failure Catalog × List Log.Record :=
  match language.load folder disk with
  | (.error e, log) => (.error e, log)
  | (.ok catalog, log) =>
    match catalog.missing? with
    | some key => (.error (.ofFault (.missingMessage key.name)), log)
    | none => (.ok catalog, log)

end TableDesk.Message
