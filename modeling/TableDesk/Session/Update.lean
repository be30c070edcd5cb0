import TableDesk.Session
import TableDesk.Session.Request

/-!
How a session answers requests. Failures of reloading, of deleting and of switching the language end
in a status message, a log record or an error dialog; only a missing message ends the session.
-/

namespace TableDesk.Session

variable {ρ : Type}

abbrev Step (ρ : Type) := Outcome Fault (Session ρ) Unit

def done (s : Session ρ) : Step ρ := ⟨.ok (), s, []⟩

/-- Sets a status message that has to be looked up first. -/
def report (s : Session ρ) (key : Message.Key) (args : List String) (log : List Log.Record) :
    Step ρ :=
  match s.message key args with
  | .ok status => ⟨.ok (), s.setStatus status, log⟩
  | .error e => ⟨.error e, s, log⟩

/-- Shows an error under a title that has to be looked up first. -/
def complain (s : Session ρ) (title : Message.Key) (body : String) : Except Fault (Session ρ) := do
  let title ← s.text title
  let close ← s.text .dialogClose
  return { s with modal := s.modal.showError title body close }

/-! ### The page -/

def updatePage (s : Session ρ) : PageRequest → Step ρ
  | .selectPrevious => done { s with page := s.page.selectPrevious }
  | .selectNext => done { s with page := s.page.selectNext }
  | .selectFirst => done { s with page := s.page.selectFirst }
  | .selectLast => done { s with page := s.page.selectLast }
  | .activateRow => done { s with page := s.page.activateCurrent.2 }
  | .toggleCheck =>
    match s.page.checkCurrent with
    | (none, page) => done { s with page }
    | (some _, page) =>
      let s := { s with page }
      s.report .statusChecked [toString page.checkedCount] []
  | .delete =>
    let o := Confirmation.activate s.wording s.page.form s.catalog s
    ⟨o.answer.map fun _ => (), o.state, o.log⟩

/-! ### What lies over the page -/

/-- Lists the tables anew after a deletion; a failure is only logged. -/
def reloadAfter [TableStore ρ] (s : Session ρ) (occasion : String) : Session ρ × List Log.Record :=
  match s.reload with
  | (.ok _, s) => (s, [])
  | (.error e, s) =>
    (s, [⟨.error, .modalUpdate, s!"Reloading tables after {occasion} failed: {e.message}"⟩])

/-- Confirms the dialog that is shown. After a deletion nothing is checked; after a deletion that
failed an error takes the place of the dialog. -/
def confirm [TableStore ρ] (s : Session ρ) : Step ρ :=
  let values := ((s.modal.current.bind Dialog.pending).map (·.values)).getD []
  match Confirmation.confirm s with
  | ⟨.ok .submitted, s, log⟩ =>
    let (s, more) := reloadAfter { s with page := s.page.clearChecked } "delete"
    s.report .deleteDone [toString values.length, ", ".intercalate values] (log ++ more)
  | ⟨.ok _, s, log⟩ => ⟨.ok (), s, log⟩
  | ⟨.error e, s, log⟩ =>
    if e.isFatal then ⟨.error e, s, log⟩
    else
      match s.complain .deleteFailedTitle e.message with
      | .error e => ⟨.error e, s, log⟩
      | .ok s =>
        let (s, more) := reloadAfter s "failed delete"
        ⟨.ok (), s, log ++ more⟩

def updateDialog [TableStore ρ] (s : Session ρ) : ModalRequest → Step ρ
  | .close => done (Confirmation.dismiss s)
  | .nextAction => done { s with modal := s.modal.focusNext }
  | .previousAction => done { s with modal := s.modal.focusPrevious }
  | .submit =>
    match s.modal.focusedAction with
    | some .confirm => s.confirm
    | _ => done (Confirmation.dismiss s)
  | .confirm => if s.modal.current.any Dialog.hasConfirm then s.confirm else done s

def updateHelp (s : Session ρ) : ModalRequest → Step ρ
  | .close | .submit | .confirm => done { s with modal := s.modal.close }
  | .nextAction | .previousAction => done s

def updateModal [TableStore ρ] (s : Session ρ) (request : ModalRequest) : Step ρ :=
  match s.modal.active with
  | none => done s
  | some .help => s.updateHelp request
  | some (.dialog _ _) => s.updateDialog request

/-! ### The session -/

def refresh [TableStore ρ] (s : Session ρ) : Step ρ :=
  match s.reload with
  | (.ok count, s) => s.report .statusReloaded [toString count] []
  | (.error e, s) =>
    s.report .statusReloadFailed []
      [⟨.error, .update, s!"Reloading tables failed: {e.message}"⟩]

def cycleLanguage (s : Session ρ) : Step ρ :=
  let next := s.language.next
  match s.setLanguage next with
  | ⟨.ok (), s, log⟩ => s.report .statusLanguage [next.displayName] log
  | ⟨.error e, s, log⟩ =>
    match e.fatal? with
    | some fault => ⟨.error fault, s, log⟩
    | none =>
      let log := log ++ [⟨.error, .update, s!"Switching language failed: {e.full}"⟩]
      match s.complain .errorTitle e.full with
      | .ok s => ⟨.ok (), s, log⟩
      | .error e => ⟨.error e, s, log⟩

def update [TableStore ρ] (s : Session ρ) : Request → Step ρ
  | .quit => done { s with quit := true }
  | .page request => s.updatePage request
  | .modal request => s.updateModal request
  | .refresh => s.refresh
  | .showHelp => done { s with modal := s.modal.showHelp }
  | .cycleLanguage => s.cycleLanguage
  | .clearStatus => done { s with status := none }
  | .nothing => done s

end TableDesk.Session
