/-!
Log records. A record carries its level, the part of the program that wrote it and its text.
-/

namespace TableDesk.Log

inductive Level where
  | error
  | warn
  | info
  | debug
  deriving DecidableEq, Repr, Inhabited

/-- The place of a level among the verbosities 1 to 5. -/
def Level.rank : Level → Nat
  | .error => 1
  | .warn => 2
  | .info => 3
  | .debug => 4

def Level.name : Level → String
  | .error => "error"
  | .warn => "warn"
  | .info => "info"
  | .debug => "debug"

inductive Source where
  | program
  | logging
  | confirmation
  | settings
  | tableFile
  | tableDeletion
  | localization
  | session
  | update
  | modalUpdate
  deriving DecidableEq, Repr, Inhabited

/-- The name under which a filter selects the records of a source. -/
def Source.target : Source → String
  | .program => "ao_admin_tui"
  | .logging => "ao_admin_tui::util::logging"
  | .confirmation => "ao_admin_core::submitter"
  | .settings => "ao_admin_tui::backend::config_service"
  | .tableFile => "ao_admin_tui::backend::table_repository"
  | .tableDeletion => "ao_admin_tui::backend::table_service"
  | .localization => "ao_admin_tui::i18n"
  | .session => "ao_admin_tui::model::app"
  | .update => "ao_admin_tui::update"
  | .modalUpdate => "ao_admin_tui::update::modal"

structure Record where
  level : Level
  source : Source
  text : String
  deriving DecidableEq, Repr

def fieldNames : List String :=
  ["message", "log.target", "log.module_path", "log.file", "log.line"]

/-- A character as the log shows it. Controls that a terminal obeys are written by their number. -/
def shownChar (c : Char) : String :=
  if c.toNat ∈ [0x7, 0x8, 0xC, 0x1B, 0x7F] then
    "\\x" ++ String.ofList ((Nat.toDigits 16 (0x100 + c.toNat)).drop 1)
  else if 0x80 ≤ c.toNat ∧ c.toNat ≤ 0x9F then
    "\\u\x7b" ++ String.ofList (Nat.toDigits 16 c.toNat) ++ "\x7d"
  else c.toString

def Record.shown (r : Record) : Record :=
  { r with text := String.join (r.text.toList.map shownChar) }

end TableDesk.Log
