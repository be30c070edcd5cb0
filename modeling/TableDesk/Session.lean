import TableDesk.Confirmation
import TableDesk.Message.Localization
import TableDesk.Modal
import TableDesk.Page

/-!
A session of the program: the page with its tables, what lies over it, the messages of the language
in use, and the store and disk that the session works on. A session serves as the place of the
dialogs and as the receiver of confirmed submissions.
-/

namespace TableDesk

structure Clock where
  hour : Nat
  minute : Nat
  second : Nat
  deriving DecidableEq, Repr

namespace Clock

def midnight : Clock := ⟨0, 0, 0⟩

def twoDigits (n : Nat) : String := if n < 10 then s!"0{n}" else toString n

def stamp (c : Clock) : String :=
  s!"[{twoDigits c.hour}:{twoDigits c.minute}:{twoDigits c.second}]"

end Clock

/-- A session over a store of some kind. -/
structure Session (ρ : Type) where
  quit : Bool
  status : Option String
  clock : Clock
  language : Message.Language
  messagesDir : Option Path
  catalog : Message.Catalog
  wording : Confirmation.Wording
  page : Page
  modal : ModalSlot
  store : ρ
  disk : Disk

namespace Session

variable {ρ : Type}

instance : DialogHost (Session ρ) where
  current s := s.modal.current
  present d s := { s with modal := s.modal.present d }
  withdraw s := (s.modal.withdraw.1, { s with modal := s.modal.withdraw.2 })

instance : LawfulDialogHost (Session ρ) where
  current_present _ _ := rfl
  withdraw_fst _ := rfl
  current_withdraw _ := rfl

instance [TableStore ρ] : SubmitTarget (Session ρ) where
  submit submission s :=
    let o := TableDeletion.submit submission s.store s.disk
    ⟨o.answer, { s with store := o.state.1, disk := o.state.2 }, o.log⟩

def text (s : Session ρ) (key : Message.Key) : Except Fault String := s.catalog.text key.name

def message (s : Session ρ) (key : Message.Key) (args : List String) : Except Fault String :=
  s.catalog.resolve key.name args

/-- A message for display, which is its name where it is missing. -/
def display (s : Session ρ) (key : Message.Key) (args : List String) : String :=
  s.catalog.display key.name args

/-- The session with a status message, stamped with the time of day. -/
def setStatus (s : Session ρ) (text : String) : Session ρ :=
  { s with status := some s!"{s.clock.stamp} {text}" }

/-- The label of a plugin; an unknown one has a message for a label. -/
def pluginLabel (s : Session ρ) (plugin : Option String) : String :=
  plugin.getD (s.display .pluginUnknown [])

def rowsLabel (s : Session ρ) : Option UInt64 → String
  | some n => s.display .tablesRowCount [toString n.toNat]
  | none => s.display .rowsUnknown []

/-- Lists the tables of the store anew and tells their number. -/
def reload [TableStore ρ] (s : Session ρ) : Except Fault Nat × Session ρ :=
  match TableStore.tables s.store with
  | .error e => (.error e, s)
  | .ok tables => (.ok tables.length, { s with page := s.page.setTables tables })

/-- Takes the messages of another language. If they cannot be loaded, nothing changes. -/
def setLanguage (s : Session ρ) (language : Message.Language) : Outcome Failure (Session ρ) Unit :=
  match language.loadComplete s.messagesDir s.disk with
  | (.error e, log) => ⟨.error e, s, log⟩
  | (.ok catalog, log) =>
    ⟨.ok (), { s with catalog, language },
      log ++ [⟨.info, .session, s!"Language switched to {language.code}"⟩]⟩

/-- A session in a language over a store and a disk. Its messages are checked first, then the
tables are listed. -/
def start [TableStore ρ] (language : Message.Language) (messagesDir : Option Path) (store : ρ)
    (disk : Disk) : Except Failure (Session ρ) × List Log.Record :=
  match language.loadComplete messagesDir disk with
  | (.error e, log) => (.error e, log)
  | (.ok catalog, log) =>
    let s : Session ρ := {
      quit := false
      status := none
      clock := .midnight
      language
      messagesDir
      catalog
      wording := .deletion
      page := .empty
      modal := .empty
      store
      disk }
    match s.reload with
    | (.ok _, s) => (.ok s, log)
    | (.error e, _) => (.error (.ofFault e), log)

end Session

end TableDesk
