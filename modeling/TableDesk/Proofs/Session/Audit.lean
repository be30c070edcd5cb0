import TableDesk.Proofs.Session.Change
import TableDesk.Proofs.Store

/-!
Sessions over a store that accounts for its deletions. The account changes nothing else: without it, every
request has the same answer, the same log and the same session as over the store itself.
-/

namespace TableDesk

variable {ρ : Type} [TableStore ρ]

theorem TableDeletion.submit_audited (submission : Submission) (store : Audited ρ) (disk : Disk) :
    submit submission store.store disk =
      let o := submit submission store disk
      ⟨o.answer, (o.state.1.store, o.state.2), o.log⟩ := by
  unfold submit
  split
  · rfl
  · simp only [TableStore.delete]
    rcases TableStore.delete submission.values store.store disk with ⟨answer, after, disk⟩
    cases answer <;> rfl

namespace Session

/-- The session over the same store with an empty account. -/
def audited (s : Session ρ) : Session (Audited ρ) := { s with store := ⟨s.store, []⟩ }

/-- The session over the same store without the account. -/
def unaudited (s : Session (Audited ρ)) : Session ρ := { s with store := s.store.store }

section Unaudited

variable (s : Session (Audited ρ))

omit [TableStore ρ]

theorem unaudited_message (key : Message.Key) (args : List String) :
    s.unaudited.message key args = s.message key args := rfl

theorem unaudited_text (key : Message.Key) : s.unaudited.text key = s.text key := rfl

theorem unaudited_page : s.unaudited.page = s.page := rfl

theorem unaudited_catalog : s.unaudited.catalog = s.catalog := rfl

theorem unaudited_wording : s.unaudited.wording = s.wording := rfl

theorem unaudited_modal : s.unaudited.modal = s.modal := rfl

theorem unaudited_store : s.unaudited.store = s.store.store := rfl

end Unaudited

def Step.unaudited (o : Step (Audited ρ)) : Step ρ := ⟨o.answer, o.state.unaudited, o.log⟩

/-- The deletions that the answer to a request asks of the store, in order. -/
def deletions (s : Session ρ) (r : Request) : List (List String) := (s.audited.update r).state.store.deletions

omit [TableStore ρ] in
theorem report_unaudited (s : Session (Audited ρ)) (key : Message.Key) (args : List String)
    (log : List Log.Record) : (s.report key args log).unaudited = s.unaudited.report key args log := by
  unfold report
  rw [unaudited_message]
  cases s.message key args <;> rfl

omit [TableStore ρ] in
theorem complain_unaudited (s : Session (Audited ρ)) (title : Message.Key) (body : String) :
    s.unaudited.complain title body = (s.complain title body).map unaudited := by
  unfold complain
  rw [unaudited_text, unaudited_text]
  cases s.text title with
  | error e => rfl
  | ok text => cases s.text .dialogClose <;> rfl

/-! ### Confirming -/

theorem delivered_unaudited (s : Session (Audited ρ)) (submission : Submission) :
    (s.delivered submission).unaudited = s.unaudited.delivered submission := by
  unfold delivered
  rw [unaudited_store, TableDeletion.submit_audited]
  rfl

theorem deliveryLog_unaudited (s : Session (Audited ρ)) (submission : Submission) :
    s.unaudited.deliveryLog submission = s.deliveryLog submission := by
  unfold deliveryLog
  rw [unaudited_store, TableDeletion.submit_audited]
  rfl

theorem confirm_unaudited (s : Session (Audited ρ)) : s.confirm.unaudited = s.unaudited.confirm := by
  cases ho : s.offered with
  | none =>
    have hu : s.unaudited.offered = none := ho
    rw [confirm_of_offered_none ho, confirm_of_offered_none hu]
    rfl
  | some submission =>
    have hu : s.unaudited.offered = some submission := ho
    have hs : (TableDeletion.submit submission s.unaudited.store s.unaudited.disk).answer =
        (TableDeletion.submit submission s.store s.disk).answer := by
      rw [unaudited_store, TableDeletion.submit_audited]
      rfl
    cases ha : (TableDeletion.submit submission s.store s.disk).answer with
    | ok =>
      rw [confirm_ok ho ha, confirm_ok hu (hs.trans ha), report_unaudited, deliveryLog_unaudited,
        ← delivered_unaudited]
      rfl
    | error e =>
      cases hf : e.isFatal with
      | true =>
        rw [confirm_fatal ho ha hf, confirm_fatal hu (hs.trans ha) hf, deliveryLog_unaudited,
          ← delivered_unaudited]
        rfl
      | false =>
        rw [confirm_error ho ha hf, confirm_error hu (hs.trans ha) hf, deliveryLog_unaudited,
          ← delivered_unaudited, complain_unaudited]
        cases (s.delivered submission).complain .deleteFailedTitle e.message <;> rfl

/-! ### Requests -/

omit [TableStore ρ] in
theorem updatePage_unaudited (s : Session (Audited ρ)) (request : PageRequest) :
    (s.updatePage request).unaudited = s.unaudited.updatePage request := by
  cases request with
  | toggleCheck =>
    simp only [updatePage]
    rw [unaudited_page]
    rcases s.page.checkCurrent with ⟨answer, page⟩
    cases answer with
    | none => rfl
    | some => exact report_unaudited _ _ _ _
  | delete =>
    simp only [updatePage, Confirmation.activate]
    rw [unaudited_page, unaudited_catalog, unaudited_wording]
    cases Confirmation.dialog s.wording s.page.form s.catalog with
    | error e => rfl
    | ok d =>
      simp only [replace_eq]
      rfl
  | selectPrevious | selectNext | selectFirst | selectLast | activateRow => rfl

theorem updateModal_unaudited (s : Session (Audited ρ)) (request : ModalRequest) :
    (s.updateModal request).unaudited = s.unaudited.updateModal request := by
  unfold updateModal
  rw [unaudited_modal]
  cases s.modal.active with
  | none => rfl
  | some modal =>
    cases modal with
    | help => cases request <;> rfl
    | dialog d focus =>
      cases request with
      | submit =>
        simp only [updateDialog]
        rw [unaudited_modal]
        split
        · exact confirm_unaudited s
        · rfl
      | confirm =>
        simp only [updateDialog]
        rw [unaudited_modal]
        split
        · exact confirm_unaudited s
        · rfl
      | close | nextAction | previousAction => rfl

theorem refresh_unaudited (s : Session (Audited ρ)) : s.refresh.unaudited = s.unaudited.refresh := by
  have ht : TableStore.tables s.unaudited.store = TableStore.tables s.store := rfl
  unfold refresh reload
  rw [ht]
  cases TableStore.tables s.store <;> exact report_unaudited _ _ _ _

omit [TableStore ρ] in
theorem cycleLanguage_unaudited (s : Session (Audited ρ)) :
    s.cycleLanguage.unaudited = s.unaudited.cycleLanguage := by
  rcases hl : s.language.next.loadComplete s.messagesDir s.disk with ⟨answer, log⟩
  have hu : s.unaudited.language.next.loadComplete s.unaudited.messagesDir s.unaudited.disk = (answer, log) := hl
  cases answer with
  | ok catalog =>
    rw [cycleLanguage_ok hl, cycleLanguage_ok hu]
    exact report_unaudited _ _ _ _
  | error e =>
    cases hf : e.fatal? with
    | some fault =>
      rw [cycleLanguage_fatal hl hf, cycleLanguage_fatal hu hf]
      rfl
    | none =>
      rw [cycleLanguage_error hl hf, cycleLanguage_error hu hf, complain_unaudited]
      cases s.complain .errorTitle e.full <;> rfl

/-- Without the account, a request does the same as over the store itself. -/
theorem update_unaudited (s : Session (Audited ρ)) (r : Request) :
    (s.update r).unaudited = s.unaudited.update r := by
  cases r with
  | page request => exact s.updatePage_unaudited request
  | modal request => exact s.updateModal_unaudited request
  | refresh => exact s.refresh_unaudited
  | cycleLanguage => exact s.cycleLanguage_unaudited
  | quit | showHelp | clearStatus | nothing => rfl

end Session

end TableDesk
