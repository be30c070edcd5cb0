import Std.Time
import TableDesk.Input.Decoder
import TableDesk.Program
import TableDesk.Screen.Control
import TableDesk.View.Desk

/-!
The command line. It copies the files that the program may look at into a disk, lets the program
work on that disk, and writes back what has changed; a place that cannot be written is protected on
the disk, and the step is taken again. The terminal is expected to hand over keys as they are typed.
-/

namespace TableDesk.CommandLine

/-! ### Files -/

/-- The content of a file. A file that cannot be read holds no text. -/
def contentAt (path : Path) : IO Node := do
  try
    let bytes ← IO.FS.readBinFile path
    match String.fromUTF8? bytes with
    | some text => return .text text
    | none => return .bytes bytes.toList
  catch _ => return .bytes []

def nodeAt (path : Path) : IO (Option Node) := do
  try
    let place ← IO.FS.realPath path
    if ← place.isDir then return some .folder else return some (← contentAt path)
  catch _ => return none

/-- Copies what is found along some steps from a folder on. -/
def fetchAlong (disk : Disk) (place : Place) : List String → IO Disk
  | [] => return disk
  | step :: rest => do
    let next := Path.follow place step
    match ← nodeAt (Path.ofPlace next) with
    | some .folder => fetchAlong (disk.put next .folder) next rest
    | some node => return disk.put next node
    | none => return disk

def fetchAll (paths : List Path) : IO Disk :=
  paths.foldlM (fun disk path => fetchAlong disk path.start path.steps) .empty

/-- Writes back what differs. Gives the first place that cannot be written. -/
def writeBack (before after : Disk) : IO (Option Place) := do
  for (place, node) in after.nodes.reverse do
    if before.node? place ≠ some node then
      try
        match node with
        | .folder => IO.FS.createDirAll (Path.ofPlace place)
        | .text content => IO.FS.writeFile (Path.ofPlace place) content
        | .bytes _ => pure ()
      catch _ => return some place
  return none

/-- Takes a step on a disk and writes back what it changed. -/
partial def carryOut {ε σ α : Type} (disk : Disk) (diskOf : σ → Disk)
    (step : Disk → Outcome ε σ α) : IO (Outcome ε σ α) := do
  let o := step disk
  match ← writeBack disk (diskOf o.state) with
  | none => return o
  | some place =>
    carryOut { disk with protectedPlaces := place :: disk.protectedPlaces } diskOf step

/-! ### The terminal -/

structure Terminal where
  env : Program.Environment
  input : IO.FS.Stream
  output : IO.FS.Stream
  log : IO.FS.Handle
  width : Nat
  height : Nat

def now : IO Clock := do
  let time ← Std.Time.PlainTime.now
  return ⟨time.hour.val.toNat, time.minute.val.toNat, time.second.val.toNat⟩

def Terminal.record (terminal : Terminal) (records : List Log.Record) : IO Unit := do
  let stamp := (← now).stamp
  for r in terminal.env.logged records do
    terminal.log.putStrLn s!"{stamp} {r.level.name.toUpper} {r.source.target}: {r.text}"
  terminal.log.flush

def Terminal.put (terminal : Terminal) (text : String) : IO Unit := do
  terminal.output.putStr text
  terminal.output.flush

/-- Waits for a key, `none` when the input ends. -/
partial def Terminal.key (terminal : Terminal) (decoder : Input.Decoder) :
    IO (Option Input.KeyEvent) := do
  let bytes ← terminal.input.read 1
  match bytes.toList with
  | byte :: _ =>
    match decoder.step byte with
    | (_, some key) => return some key
    | (decoder, none) => terminal.key decoder
  | [] => return none

/-- Shows the session and answers keys until it is over. -/
partial def Terminal.serve (terminal : Terminal) (theme : Theme) (s : Session FileTables) :
    IO (Session.Step FileTables) := do
  terminal.put (s.draw theme terminal.width terminal.height).controlText
  if s.quit then return s.done
  match ← terminal.key .ready with
  | none => return s.done
  | some key =>
    let clock ← now
    let files ← fetchAll [Settings.fileIn terminal.env.settingsFolder]
    let disk ← fetchAll (Program.paths terminal.env files)
    let o ← carryOut disk Session.disk fun disk => Session.handle { s with clock, disk } (.key key)
    terminal.record o.log
    match o.answer with
    | .ok () => terminal.serve theme o.state
    | .error e => return ⟨.error e, o.state, []⟩

/-! ### The program -/

def fail (e : Failure) : IO UInt32 := do
  IO.eprintln s!"Error: {e.brief}"
  return 1

def Terminal.run (terminal : Terminal) (started : Program.Started) : IO UInt32 := do
  if !(← terminal.input.isTty) then fail Program.noTerminal
  else
    terminal.put Screen.takeTerminal
    let o := Program.finish (← terminal.serve started.theme started.session)
    terminal.put Screen.returnTerminal
    terminal.record o.log
    match o.answer with
    | .ok () => return 0
    | .error e => fail e

def numberOf (name : String) (default : Nat) : IO Nat := do
  return ((← IO.getEnv name).bind (·.toNat?)).getD default

def environment : IO Program.Environment := do
  let names := ["HOME", "XDG_CONFIG_HOME", "XDG_DATA_HOME", Settings.languageVariable, "RUST_LOG"]
  let values ← names.mapM fun name => return (name, ← IO.getEnv name)
  return .ofVariables fun name => (values.lookup name).join

def run : IO UInt32 := do
  let env ← environment
  let files ← fetchAll [Settings.fileIn env.settingsFolder]
  let disk ← fetchAll (Program.paths env files)
  let opened ← carryOut disk id (Program.openLog env)
  match opened.answer with
  | .error e => fail e
  | .ok () =>
    let terminal : Terminal := {
      env
      input := ← IO.getStdin
      output := ← IO.getStdout
      log := ← IO.FS.Handle.mk env.logFile .append
      width := ← numberOf "COLUMNS" 80
      height := ← numberOf "LINES" 24 }
    terminal.record opened.log
    let o ← carryOut opened.state id (Program.start env)
    terminal.record o.log
    match o.answer with
    | .error e => fail e
    | .ok started => terminal.run started

end TableDesk.CommandLine

def main : IO UInt32 := TableDesk.CommandLine.run
