import TableDesk.About
import TableDesk.Log.Filter
import TableDesk.Session.Run
import TableDesk.Settings

/-!
The program from its start to its end, over a disk and the reports of a terminal. Everything that
can fail before the terminal is needed is done first: the folder of the log is made, the settings
are read and written once if there are none, the tables are opened and the messages are checked.
-/

namespace TableDesk.Program

/-- What the program takes from its surroundings: the folders of settings and of data, and the
variables that choose the language and the log records. -/
structure Environment where
  settingsHome : Path
  dataHome : Path
  language : Option String
  logFilter : Option String
  deriving DecidableEq, Repr

namespace Environment

/-- A folder of the user: what a variable says if it is an absolute path, or else a folder below the
home folder. -/
def userFolder (lookup : String → Option String) (name below : String) : Path :=
  match (lookup name).filter (·.startsWith "/"), lookup "HOME" with
  | some path, _ => path
  | none, some home => Path.join home below
  | none, none => "."

def ofVariables (lookup : String → Option String) : Environment where
  settingsHome := userFolder lookup "XDG_CONFIG_HOME" ".config"
  dataHome := userFolder lookup "XDG_DATA_HOME" ".local/share"
  language := lookup Settings.languageVariable
  logFilter := lookup "RUST_LOG"

def settingsFolder (env : Environment) : Path := env.settingsHome.join About.name

def logFolder (env : Environment) : Path := env.dataHome.join About.name

def logFile (env : Environment) : Path := env.logFolder.join s!"{About.name}.log"

def filter (env : Environment) : Log.Filter := .ofSetting env.logFilter

def logged (env : Environment) (records : List Log.Record) : List Log.Record :=
  (records.filter env.filter.accepts).map (·.shown)

end Environment

/-- The files and folders that the program may look at, given a disk with the file of settings. -/
def paths (env : Environment) (disk : Disk) : List Path :=
  let file := Settings.fileIn env.settingsFolder
  let settings := (Settings.read file disk).1.toOption.getD .default
  let messages := settings.resolvedMessagesDir env.settingsFolder
  [file, env.logFolder, settings.resolvedTablesFile env.settingsFolder] ++
    Message.Language.all.map (·.overrideFile messages)

/-! ### The start -/

def openLog (env : Environment) (disk : Disk) : Outcome Failure Disk Unit :=
  match disk.makeFolders env.logFolder with
  | (.error e, disk) => ⟨.error ⟨none, .system e⟩, disk, []⟩
  | (.ok (), disk) => ⟨.ok (), disk, [⟨.info, .logging, s!"Logging to {env.logFile}"⟩]⟩

/-- Writes the default settings if there is no file of settings. That this is impossible is only
recorded. -/
def writeDefault (path : Path) (disk : Disk) : Disk × List Log.Record :=
  if disk.contains path then (disk, [])
  else
    match Settings.default.save path disk with
    | (.ok (), disk) => (disk, [])
    | (.error e, disk) =>
      (disk, [⟨.warn, .program, s!"Could not write default config: {e.full}"⟩])

/-- Reads the settings; a first start leaves the default ones on the disk. -/
def openSettings (env : Environment) (disk : Disk) : Outcome Failure Disk Settings :=
  let path := Settings.fileIn env.settingsFolder
  match Settings.load path env.language disk with
  | (.error e, log) => ⟨.error e, disk, log⟩
  | (.ok settings, log) =>
    let (disk, more) := writeDefault path disk
    ⟨.ok settings, disk, log ++ more⟩

def openTables (path : Path) (disk : Disk) : Except Failure FileTables × List Log.Record :=
  match FileTables.load path disk with
  | (.error e, log) => (.error ⟨some s!"Failed to open table catalog {path}", .fault e⟩, log)
  | (.ok tables, log) => (.ok tables, log)

def openSession (settings : Settings) (folder : Path) (disk : Disk) :
    Except Failure (Session FileTables) × List Log.Record :=
  match openTables (settings.resolvedTablesFile folder) disk with
  | (.error e, log) => (.error e, log)
  | (.ok tables, log) =>
    let (language, more) := settings.resolvedLanguage
    let (session, rest) :=
      Session.start language (some (settings.resolvedMessagesDir folder)) tables disk
    (session, log ++ more ++ rest)

structure Started where
  theme : Theme
  session : Session FileTables

/-- Does everything that comes before the terminal is needed, once the log is open. -/
def start (env : Environment) (disk : Disk) : Outcome Failure Disk Started :=
  let greeting : Log.Record := ⟨.info, .program, s!"Starting {About.name} v{About.version}"⟩
  match openSettings env disk with
  | ⟨.error e, disk, log⟩ => ⟨.error e, disk, greeting :: log⟩
  | ⟨.ok settings, disk, log⟩ =>
    let (session, more) := openSession settings env.settingsFolder disk
    ⟨session.map (⟨settings.theme, ·⟩), disk, greeting :: log ++ more⟩

/-! ### The whole run -/

/-- What is left when the program has ended: the failure that ended it, whether it took the
terminal, the disk, and the records of the log if the log could be opened. -/
structure Ending where
  failure : Option Failure
  tookTerminal : Bool
  disk : Disk
  log : Option (List Log.Record)

def Ending.exitCode (ending : Ending) : UInt8 := if ending.failure.isSome then 1 else 0

def Ending.complaint (ending : Ending) : Option String :=
  ending.failure.map fun e => s!"Error: {e.brief}"

def faultRecord (e : Fault) : Log.Record :=
  ⟨.error, .program, s!"Exiting with error: {e.message}"⟩

/-- The end of a session that has the terminal. -/
def finish (o : Session.Step FileTables) : Outcome Failure Disk Unit :=
  match o.answer with
  | .ok () => ⟨.ok (), o.state.disk, o.log⟩
  | .error e => ⟨.error (.ofFault e), o.state.disk, o.log ++ [faultRecord e]⟩

def noTerminal : Failure := ⟨none, .system "No such device or address"⟩

/-- Runs the program from its start to its end. Without a terminal there are no reports and the
session never begins. -/
def run (env : Environment) (terminal : Option (List Input.Event)) (disk : Disk) : Ending :=
  match openLog env disk with
  | ⟨.error e, disk, _⟩ => ⟨some e, false, disk, none⟩
  | ⟨.ok (), disk, opened⟩ =>
    let kept (log : List Log.Record) := some (env.logged (opened ++ log))
    match start env disk, terminal with
    | ⟨.error e, disk, log⟩, _ => ⟨some e, false, disk, kept log⟩
    | ⟨.ok _, disk, log⟩, none => ⟨some noTerminal, false, disk, kept log⟩
    | ⟨.ok started, _, log⟩, some events =>
      let o := finish (Session.run events started.session)
      ⟨match o.answer with
        | .ok () => none
        | .error e => some e, true, o.state, kept (log ++ o.log)⟩

end TableDesk.Program
