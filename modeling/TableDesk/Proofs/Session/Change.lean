import TableDesk.Proofs.Confirmation
import TableDesk.Proofs.Modal
import TableDesk.Proofs.Page.Run
import TableDesk.Proofs.Session.Reachable

/-!
What one request can turn a session into. Each operation has one statement here that gives its result, and
`update_change` collects them: a request does one of the listed things to a session and nothing else.
-/

namespace TableDesk

/-- What a request to the page does to it. Asking for a deletion leaves it as it is. -/
def PageRequest.ops : PageRequest → List Page.Op
  | .selectPrevious => [.selectPrevious]
  | .selectNext => [.selectNext]
  | .selectFirst => [.selectFirst]
  | .selectLast => [.selectLast]
  | .activateRow => [.activate]
  | .toggleCheck => [.check]
  | .delete => []

/-- No request to the page changes which tables there are. -/
theorem PageRequest.run_ops_alike (request : PageRequest) (p : Page) : Page.Alike p (Page.run request.ops p) := by
  cases request with
  | selectPrevious | selectFirst | selectLast => exact ⟨rfl, rfl, rfl, rfl⟩
  | selectNext => exact p.selectNext_alike
  | activateRow => exact p.activateCurrent_alike
  | toggleCheck => exact p.checkCurrent_alike
  | delete => exact .refl p

namespace Session

variable {ρ : Type}

/-- The submission that the dialog over the page offers. -/
def offered (s : Session ρ) : Option Submission := s.modal.current.bind Dialog.pending

/-- The request confirms the dialog over the page: directly, or by the button in focus. -/
def Confirms (s : Session ρ) (r : Request) : Prop :=
  r = .modal .confirm ∨ r = .modal .submit ∧ s.modal.focusedAction = some .confirm

theorem exists_report_eq (s : Session ρ) (key : Message.Key) (args : List String) (log : List Log.Record) :
    ∃ answer status, s.report key args log = ⟨answer, { s with status }, log⟩ := by
  unfold report
  split
  · exact ⟨_, _, rfl⟩
  · exact ⟨_, s.status, rfl⟩

theorem report_state (s : Session ρ) (key : Message.Key) (args : List String) (log : List Log.Record) :
    ∃ status, (s.report key args log).state = { s with status } := by
  obtain ⟨answer, status, hr⟩ := s.exists_report_eq key args log
  exact ⟨status, by rw [hr]⟩

/-- An error that is shown is a notice with a title and a closing label of the catalog. -/
theorem complain_eq_ok {s t : Session ρ} {title : Message.Key} {body : String}
    (h : s.complain title body = .ok t) :
    ∃ text close, s.text title = .ok text ∧ s.text .dialogClose = .ok close ∧
      t = { s with modal := s.modal.showError text body close } := by
  unfold complain at h
  obtain ⟨text, ht, h⟩ := exists_of_bind_eq_ok h
  obtain ⟨close, hc, h⟩ := exists_of_bind_eq_ok h
  exact ⟨text, close, ht, hc, (Except.ok.inj h).symm⟩

/-- A dialog takes the place of whatever lies over the page. -/
theorem replace_eq (s : Session ρ) (d : Dialog) :
    Confirmation.replace d s = { s with modal := s.modal.present d } := by
  unfold Confirmation.replace
  simp only
  split <;> rfl

/-- All requests to the page but for a deletion change the page and the status alone. -/
theorem updatePage_state (s : Session ρ) {request : PageRequest} (h : request ≠ .delete) :
    ∃ status, (s.updatePage request).state = { s with page := Page.run request.ops s.page, status } := by
  cases request with
  | selectPrevious | selectNext | selectFirst | selectLast | activateRow => exact ⟨s.status, rfl⟩
  | toggleCheck =>
    simp only [updatePage]
    rcases hc : s.page.checkCurrent with ⟨answer, page⟩
    obtain rfl : Page.run PageRequest.toggleCheck.ops s.page = page := congrArg Prod.snd hc
    cases answer with
    | none => exact ⟨s.status, rfl⟩
    | some checked =>
      exact report_state { s with page := Page.run PageRequest.toggleCheck.ops s.page } .statusChecked
        [toString (Page.run PageRequest.toggleCheck.ops s.page).checkedCount] []
  | delete => contradiction

/-! ### Switching the language -/

theorem cycleLanguage_ok {s : Session ρ} {catalog : Message.Catalog} {log : List Log.Record}
    (h : s.language.next.loadComplete s.messagesDir s.disk = (.ok catalog, log)) :
    s.cycleLanguage = Session.report { s with catalog, language := s.language.next } .statusLanguage
      [s.language.next.displayName]
      (log ++ [⟨.info, .session, s!"Language switched to {s.language.next.code}"⟩]) := by
  unfold cycleLanguage setLanguage
  simp only [h]

/-- Messages that cannot be loaded are told in a notice, and the session keeps its language. -/
theorem cycleLanguage_error {s : Session ρ} {e : Failure} {log : List Log.Record}
    (h : s.language.next.loadComplete s.messagesDir s.disk = (.error e, log)) (hf : e.fatal? = none) :
    s.cycleLanguage =
      let log := log ++ [⟨.error, .update, s!"Switching language failed: {e.full}"⟩]
      match s.complain .errorTitle e.full with
      | .ok t => ⟨.ok (), t, log⟩
      | .error e => ⟨.error e, s, log⟩ := by
  unfold cycleLanguage setLanguage
  cases hc : s.complain .errorTitle e.full <;> simp only [h, hf, hc]

theorem cycleLanguage_fatal {s : Session ρ} {e : Failure} {log : List Log.Record} {fault : Fault}
    (h : s.language.next.loadComplete s.messagesDir s.disk = (.error e, log)) (hf : e.fatal? = some fault) :
    s.cycleLanguage = ⟨.error fault, s, log⟩ := by
  unfold cycleLanguage setLanguage
  simp only [h, hf]

variable [TableStore ρ]

/-! ### Listing the tables -/

/-- The page with the tables of a store, or as it is if the store does not list them. -/
def relisted (store : ρ) (p : Page) : Page :=
  match TableStore.tables store with
  | .ok tables => p.setTables tables
  | .error _ => p

theorem relisted_eq_run (store : ρ) (p : Page) : ∃ ops, relisted store p = Page.run ops p := by
  unfold relisted
  split
  next tables _ => exact ⟨[.setTables tables], rfl⟩
  · exact ⟨[], rfl⟩

/-- What is logged when the tables cannot be listed anew. -/
def reloadLog (store : ρ) (occasion : String) : List Log.Record :=
  match TableStore.tables store with
  | .ok _ => []
  | .error e => [⟨.error, .modalUpdate, s!"Reloading tables after {occasion} failed: {e.message}"⟩]

theorem reloadAfter_eq (s : Session ρ) (occasion : String) :
    s.reloadAfter occasion = ({ s with page := relisted s.store s.page }, reloadLog s.store occasion) := by
  unfold reloadAfter reload relisted reloadLog
  cases TableStore.tables s.store <;> rfl

theorem refresh_state (s : Session ρ) :
    ∃ status, s.refresh.state = { s with page := relisted s.store s.page, status } := by
  unfold refresh reload relisted
  cases TableStore.tables s.store with
  | ok tables => exact report_state { s with page := s.page.setTables tables } _ _ _
  | error e => exact report_state s _ _ _

/-! ### Confirming -/

/-- The session after its dialog was taken away and a submission was delivered. -/
def delivered (s : Session ρ) (submission : Submission) : Session ρ :=
  let o := TableDeletion.submit submission s.store s.disk
  { s with modal := .empty, store := o.state.1, disk := o.state.2 }

def deliveryLog (s : Session ρ) (submission : Submission) : List Log.Record :=
  ⟨.info, .confirmation,
    s!"Submitting {submission.action} on form {submission.formId}: {submission.joined}"⟩ ::
    (TableDeletion.submit submission s.store s.disk).log

theorem confirmation_confirm {s : Session ρ} {submission : Submission} (h : s.offered = some submission) :
    Confirmation.confirm s = {
      answer := (TableDeletion.submit submission s.store s.disk).answer.map fun _ => .submitted
      state := s.delivered submission
      log := s.deliveryLog submission } := by
  have hw : (DialogHost.withdraw s).1.bind Dialog.pending = some submission := h
  unfold Confirmation.confirm
  simp only [hw]
  rfl

theorem confirm_of_offered_none {s : Session ρ} (h : s.offered = none) :
    s.confirm = done { s with modal := .empty } := by
  have hc : Confirmation.confirm s = ⟨.ok .idle, { s with modal := .empty }, []⟩ := by
    have hw : (DialogHost.withdraw s).1.bind Dialog.pending = none := h
    unfold Confirmation.confirm
    simp only [hw]
    rfl
  unfold confirm
  simp only [hc]
  rfl

/-- After a deletion nothing is checked, the tables are listed anew, and the deletion is reported. -/
theorem confirm_ok {s : Session ρ} {submission : Submission} (h : s.offered = some submission)
    (ha : (TableDeletion.submit submission s.store s.disk).answer = .ok ()) :
    s.confirm =
      Session.report { s.delivered submission with
          page := relisted (s.delivered submission).store s.page.clearChecked }
        .deleteDone [toString submission.values.length, submission.joined]
        (s.deliveryLog submission ++ reloadLog (s.delivered submission).store "delete") := by
  have hv : ((s.modal.current.bind Dialog.pending).map (·.values)).getD [] = submission.values := by
    rw [show s.modal.current.bind Dialog.pending = some submission from h]
    rfl
  unfold confirm
  rw [confirmation_confirm h, ha, hv]
  simp only [Except.map, reloadAfter_eq]
  rfl

/-- A deletion that failed is told in the place of the dialog, and the tables are listed anew. -/
theorem confirm_error {s : Session ρ} {submission : Submission} (h : s.offered = some submission) {e : Fault}
    (ha : (TableDeletion.submit submission s.store s.disk).answer = .error e) (hf : e.isFatal = false) :
    s.confirm =
      match (s.delivered submission).complain .deleteFailedTitle e.message with
      | .error e => ⟨.error e, s.delivered submission, s.deliveryLog submission⟩
      | .ok t => ⟨.ok (), { t with page := relisted t.store t.page },
          s.deliveryLog submission ++ reloadLog t.store "failed delete"⟩ := by
  unfold confirm
  rw [confirmation_confirm h, ha]
  simp only [Except.map, hf, reloadAfter_eq]
  rfl

theorem confirm_fatal {s : Session ρ} {submission : Submission} (h : s.offered = some submission) {e : Fault}
    (ha : (TableDeletion.submit submission s.store s.disk).answer = .error e) (hf : e.isFatal = true) :
    s.confirm = ⟨.error e, s.delivered submission, s.deliveryLog submission⟩ := by
  unfold confirm
  rw [confirmation_confirm h, ha]
  simp only [Except.map, hf]
  rfl

/-- Confirming delivers the offer. It may change the page and the status then, and what comes to lie over the page
offers nothing. -/
theorem exists_confirm_eq {s : Session ρ} {submission : Submission} (h : s.offered = some submission) :
    ∃ answer page status modal more,
      s.confirm = ⟨answer, { s.delivered submission with page, status, modal }, s.deliveryLog submission ++ more⟩ ∧
        modal.current.bind Dialog.pending = none := by
  cases ha : (TableDeletion.submit submission s.store s.disk).answer with
  | ok =>
    obtain ⟨answer, status, hr⟩ := exists_report_eq { s.delivered submission with
      page := relisted (s.delivered submission).store s.page.clearChecked } .deleteDone
      [toString submission.values.length, submission.joined]
      (s.deliveryLog submission ++ reloadLog (s.delivered submission).store "delete")
    exact ⟨answer, _, status, .empty, _, (confirm_ok h ha).trans hr, rfl⟩
  | error e =>
    cases hf : e.isFatal with
    | true => exact ⟨.error e, s.page, s.status, .empty, [], by rw [confirm_fatal h ha hf, List.append_nil]; rfl, rfl⟩
    | false =>
      rw [confirm_error h ha hf]
      cases hc : (s.delivered submission).complain .deleteFailedTitle e.message with
      | error e' => exact ⟨.error e', s.page, s.status, .empty, [], by rw [List.append_nil]; rfl, rfl⟩
      | ok t =>
        obtain ⟨title, close, -, -, rfl⟩ := complain_eq_ok hc
        exact ⟨.ok (), _, s.status, _, _, rfl, rfl⟩

/-- A request that confirms an offer is answered by confirming. -/
theorem update_of_confirms {s : Session ρ} {r : Request} (hc : s.Confirms r) {submission : Submission}
    (ho : s.offered = some submission) : s.update r = s.confirm := by
  rcases s with ⟨quit, status, clock, language, folder, catalog, wording, page, ⟨active⟩, store, disk⟩
  rcases hc with rfl | ⟨rfl, hf⟩
  · cases active with
    | none => contradiction
    | some modal =>
      cases modal with
      | help => contradiction
      | dialog d focus =>
        have hp : d.pending = some submission := ho
        have hd : d.hasConfirm = true := by
          rw [d.hasConfirm_eq, hp]
          rfl
        simp [update, updateModal, updateDialog, ModalSlot.current, hd]
  · cases active with
    | none => contradiction
    | some modal =>
      cases modal with
      | help => contradiction
      | dialog d focus => simp only [update, updateModal, updateDialog, hf]

/-! ### One request -/

/-- What a request can turn a session into. The last three are the ends of a confirmed deletion: it
succeeds, it fails and the failure is shown, or it fails and the failure cannot be shown. -/
inductive Change (s : Session ρ) : Request → Session ρ → Prop
  | told {r : Request} (status : Option String) : Change s r { s with status }
  | quit : Change s .quit { s with quit := true }
  | paged (request : PageRequest) (status : Option String) :
      Change s (.page request) { s with page := Page.run request.ops s.page, status }
  | asked {d : Dialog} : Confirmation.dialog s.wording s.page.form s.catalog = .ok d →
      Change s (.page .delete) { s with modal := s.modal.present d }
  | closed (request : ModalRequest) : Change s (.modal request) { s with modal := .empty }
  | focused (request : ModalRequest) (move : Nat → Nat → Nat) :
      Change s (.modal request) { s with modal := s.modal.moveFocus move }
  | helped : Change s .showHelp { s with modal := s.modal.showHelp }
  | refreshed (status : Option String) :
      Change s .refresh { s with page := relisted s.store s.page, status }
  | translated {catalog : Message.Catalog} (status : Option String) :
      (s.language.next.loadComplete s.messagesDir s.disk).1 = .ok catalog →
      Change s .cycleLanguage { s with catalog, language := s.language.next, status }
  | complained (title body close : String) :
      Change s .cycleLanguage { s with modal := s.modal.showError title body close }
  | deleted {r : Request} {submission : Submission} (status : Option String) :
      s.Confirms r → s.offered = some submission →
      (TableDeletion.submit submission s.store s.disk).answer = .ok () →
      Change s r { s.delivered submission with
        page := relisted (s.delivered submission).store s.page.clearChecked, status }
  | refused {r : Request} {submission : Submission} {e : Fault} (title close : String) :
      s.Confirms r → s.offered = some submission →
      (TableDeletion.submit submission s.store s.disk).answer = .error e →
      Change s r { s.delivered submission with
        page := relisted (s.delivered submission).store s.page
        modal := ModalSlot.empty.showError title e.message close }
  | broken {r : Request} {submission : Submission} {e : Fault} :
      s.Confirms r → s.offered = some submission →
      (TableDeletion.submit submission s.store s.disk).answer = .error e → Change s r (s.delivered submission)

theorem updatePage_change (s : Session ρ) (request : PageRequest) :
    Change s (.page request) (s.updatePage request).state := by
  by_cases hr : request = .delete
  · subst hr
    simp only [updatePage, Confirmation.activate]
    cases hd : Confirmation.dialog s.wording s.page.form s.catalog with
    | error e => exact .told s.status
    | ok d =>
      simp only [replace_eq]
      exact .asked hd
  · obtain ⟨status, hs⟩ := s.updatePage_state hr
    rw [hs]
    exact .paged request status

theorem confirm_change {s : Session ρ} {r : ModalRequest} (h : s.Confirms (.modal r)) :
    Change s (.modal r) s.confirm.state := by
  cases ho : s.offered with
  | none =>
    rw [confirm_of_offered_none ho]
    exact .closed r
  | some submission =>
    cases ha : (TableDeletion.submit submission s.store s.disk).answer with
    | ok =>
      rw [confirm_ok ho ha]
      obtain ⟨status, hs⟩ := report_state { s.delivered submission with
        page := relisted (s.delivered submission).store s.page.clearChecked } .deleteDone
        [toString submission.values.length, submission.joined]
        (s.deliveryLog submission ++ reloadLog (s.delivered submission).store "delete")
      rw [hs]
      exact .deleted status h ho ha
    | error e =>
      cases hf : e.isFatal with
      | true =>
        rw [confirm_fatal ho ha hf]
        exact .broken h ho ha
      | false =>
        rw [confirm_error ho ha hf]
        cases hc : (s.delivered submission).complain .deleteFailedTitle e.message with
        | error e' => exact .broken h ho ha
        | ok t =>
          obtain ⟨title, close, -, -, rfl⟩ := complain_eq_ok hc
          exact .refused title close h ho ha

theorem updateModal_change (s : Session ρ) (request : ModalRequest) :
    Change s (.modal request) (s.updateModal request).state := by
  unfold updateModal
  split
  · exact .told s.status
  · cases request with
    | close | submit | confirm => exact .closed _
    | nextAction | previousAction => exact .told s.status
  · cases request with
    | close => exact .closed _
    | nextAction => exact .focused .nextAction _
    | previousAction => exact .focused .previousAction _
    | submit =>
      simp only [updateDialog]
      split
      next hf => exact confirm_change (.inr ⟨rfl, hf⟩)
      · exact .closed _
    | confirm =>
      simp only [updateDialog]
      split
      · exact confirm_change (.inl rfl)
      · exact .told s.status

theorem cycleLanguage_change (s : Session ρ) : Change s .cycleLanguage s.cycleLanguage.state := by
  rcases hl : s.language.next.loadComplete s.messagesDir s.disk with ⟨answer, log⟩
  cases answer with
  | ok catalog =>
    rw [cycleLanguage_ok hl]
    obtain ⟨status, hs⟩ := report_state { s with catalog, language := s.language.next } .statusLanguage
      [s.language.next.displayName]
      (log ++ [⟨.info, .session, s!"Language switched to {s.language.next.code}"⟩])
    rw [hs]
    exact .translated status (congrArg Prod.fst hl)
  | error e =>
    cases hf : e.fatal? with
    | some fault =>
      rw [cycleLanguage_fatal hl hf]
      exact .told s.status
    | none =>
      rw [cycleLanguage_error hl hf]
      simp only
      cases hc : s.complain .errorTitle e.full with
      | error e' => exact .told s.status
      | ok t =>
        obtain ⟨title, close, -, -, rfl⟩ := complain_eq_ok hc
        exact .complained title e.full close

/-- A request makes one of the listed changes. -/
theorem update_change (s : Session ρ) (r : Request) : Change s r (s.update r).state := by
  cases r with
  | quit => exact .quit
  | page request => exact s.updatePage_change request
  | modal request => exact s.updateModal_change request
  | refresh =>
    obtain ⟨status, hs⟩ := s.refresh_state
    simp only [update, hs]
    exact .refreshed status
  | showHelp => exact .helped
  | cycleLanguage => exact s.cycleLanguage_change
  | clearStatus => exact .told none
  | nothing => exact .told s.status

/-- Through every request the page goes by its own operations. -/
theorem Change.page_eq_run {s t : Session ρ} {r : Request} (h : Change s r t) :
    ∃ ops, t.page = Page.run ops s.page := by
  cases h with
  | told | quit | asked | closed | focused | helped | translated | complained => exact ⟨[], rfl⟩
  | paged request => exact ⟨request.ops, rfl⟩
  | refreshed => exact relisted_eq_run s.store s.page
  | deleted =>
    obtain ⟨ops, ho⟩ := relisted_eq_run (s.delivered _).store s.page.clearChecked
    exact ⟨.clear :: ops, ho⟩
  | refused => exact relisted_eq_run _ s.page
  | broken => exact ⟨[], rfl⟩

theorem Change.wording_eq {s t : Session ρ} {r : Request} (h : Change s r t) : t.wording = s.wording := by
  cases h <;> rfl

/-- The dialogs are about the deletion of tables from the start to the end. -/
theorem Reachable.wording {s : Session ρ} (h : Reachable RequestMove s) : s.wording = .deletion := by
  induction h with
  | start hs =>
    obtain ⟨catalog, tables, -, -, rfl⟩ := start_eq_ok hs
    rfl
  | @step s t _ hm ih =>
    cases hm with
    | answer r => exact (s.update_change r).wording_eq.trans ih
    | elapse => exact ih

theorem Reachable.page {s : Session ρ} (h : Reachable RequestMove s) : s.page.Reachable := by
  induction h with
  | start hs =>
    obtain ⟨catalog, tables, -, -, rfl⟩ := start_eq_ok hs
    exact ⟨[.setTables tables], rfl⟩
  | @step s t _ hm ih =>
    cases hm with
    | answer r =>
      obtain ⟨ops, ho⟩ := (s.update_change r).page_eq_run
      rw [ho]
      exact ih.run ops
    | elapse => exact ih

end Session

end TableDesk
