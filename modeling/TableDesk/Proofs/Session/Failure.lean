import TableDesk.Proofs.Session.Change
import TableDesk.Proofs.Store

/-!
No request is answered by a failure. Every catalog that a session comes to hold has every message, the texts
of a failure included, so that nothing goes wrong while something that went wrong is told; and no failure of
the files or of the store is one that must end the program.
-/

namespace TableDesk

/-- A complete catalog has all messages of the dialogs. -/
theorem Message.Catalog.Complete.contains_wording {catalog : Catalog} (h : catalog.Complete) :
    ∀ key ∈ Confirmation.Wording.deletion.keys, catalog.contains key = true := by
  intro key hk
  simp only [Confirmation.Wording.keys, Confirmation.Wording.deletion, List.mem_cons, List.not_mem_nil,
    or_false] at hk
  rcases hk with rfl | rfl | rfl | rfl | rfl | rfl <;> exact h _

namespace Session

variable {ρ : Type}

/-! ### Messages -/

theorem exists_message {s : Session ρ} (h : s.catalog.Complete) (key : Message.Key) (args : List String) :
    ∃ text, s.message key args = .ok text :=
  Message.Catalog.exists_resolve (h key) args

theorem exists_text {s : Session ρ} (h : s.catalog.Complete) (key : Message.Key) :
    ∃ text, s.text key = .ok text :=
  Message.Catalog.exists_resolve (h key) []

theorem exists_report {s : Session ρ} (h : s.catalog.Complete) (key : Message.Key) (args : List String)
    (log : List Log.Record) :
    ∃ text, s.message key args = .ok text ∧ s.report key args log = ⟨.ok (), s.setStatus text, log⟩ := by
  obtain ⟨text, ht⟩ := exists_message h key args
  refine ⟨text, ht, ?_⟩
  unfold report
  rw [ht]

theorem report_answer {s : Session ρ} (h : s.catalog.Complete) (key : Message.Key) (args : List String)
    (log : List Log.Record) : (s.report key args log).answer = .ok () := by
  obtain ⟨text, -, hr⟩ := exists_report h key args log
  rw [hr]

theorem exists_complain {s : Session ρ} (h : s.catalog.Complete) (key : Message.Key) (body : String) :
    ∃ title close, s.text key = .ok title ∧ s.text .dialogClose = .ok close ∧
      s.complain key body = .ok { s with modal := s.modal.showError title body close } := by
  obtain ⟨title, ht⟩ := exists_text h key
  obtain ⟨close, hc⟩ := exists_text h .dialogClose
  refine ⟨title, close, ht, hc, ?_⟩
  unfold complain
  rw [ht, hc]
  rfl

variable [TableStore ρ]

theorem Change.complete {s t : Session ρ} {r : Request} (h : Change s r t) (hs : s.catalog.Complete) :
    t.catalog.Complete := by
  cases h with
  | translated _ hl => exact Message.Language.complete_of_loadComplete hl
  | told | quit | paged | asked | closed | focused | helped | refreshed | complained => exact hs
  | deleted | refused | broken => exact hs

theorem Reachable.complete {s : Session ρ} (h : Reachable RequestMove s) : s.catalog.Complete := by
  induction h with
  | start hs =>
    obtain ⟨catalog, tables, hl, -, rfl⟩ := start_eq_ok hs
    exact Message.Language.complete_of_loadComplete hl
  | @step s t _ hm ih =>
    cases hm with
    | answer r => exact (s.update_change r).complete ih
    | elapse => exact ih

/-! ### What becomes of failures -/

/-- Tables that cannot be listed are told in a status message and in the log. -/
theorem refresh_told {s : Session ρ} (h : s.catalog.Complete) {e : Fault}
    (ht : TableStore.tables s.store = .error e) :
    ∃ text, s.message .statusReloadFailed [] = .ok text ∧
      s.refresh = ⟨.ok (), s.setStatus text, [⟨.error, .update, s!"Reloading tables failed: {e.message}"⟩]⟩ := by
  obtain ⟨text, hm, hr⟩ := exists_report h .statusReloadFailed []
    [⟨.error, .update, s!"Reloading tables failed: {e.message}"⟩]
  refine ⟨text, hm, ?_⟩
  unfold refresh reload
  simp only [ht]
  exact hr

theorem refresh_answer {s : Session ρ} (h : s.catalog.Complete) : s.refresh.answer = .ok () := by
  cases ht : TableStore.tables s.store with
  | ok tables =>
    unfold refresh reload
    simp only [ht]
    exact report_answer (s := { s with page := s.page.setTables tables }) h _ _ _
  | error e =>
    obtain ⟨text, -, hr⟩ := refresh_told h ht
    rw [hr]

omit [TableStore ρ] in
/-- Messages that cannot be loaded are told in a notice and in the log. -/
theorem cycleLanguage_told {s : Session ρ} (h : s.catalog.Complete) {e : Failure} {log : List Log.Record}
    (hl : s.language.next.loadComplete s.messagesDir s.disk = (.error e, log)) :
    ∃ title close, s.text .errorTitle = .ok title ∧ s.text .dialogClose = .ok close ∧
      s.cycleLanguage = ⟨.ok (), { s with modal := s.modal.showError title e.full close },
        log ++ [⟨.error, .update, s!"Switching language failed: {e.full}"⟩]⟩ := by
  obtain ⟨title, close, ht, hc, hcomplain⟩ := exists_complain h .errorTitle e.full
  refine ⟨title, close, ht, hc, ?_⟩
  have hf : e.fatal? = none := Message.Language.fatal?_of_loadComplete (congrArg Prod.fst hl)
  rw [cycleLanguage_error hl hf, hcomplain]

omit [TableStore ρ] in
theorem cycleLanguage_answer {s : Session ρ} (h : s.catalog.Complete) : s.cycleLanguage.answer = .ok () := by
  rcases hl : s.language.next.loadComplete s.messagesDir s.disk with ⟨answer, log⟩
  cases answer with
  | ok catalog =>
    have hc : catalog.Complete := Message.Language.complete_of_loadComplete (congrArg Prod.fst hl)
    rw [cycleLanguage_ok hl]
    exact report_answer (s := { s with catalog, language := s.language.next }) hc _ _ _
  | error e =>
    obtain ⟨title, close, -, -, hs⟩ := cycleLanguage_told h hl
    rw [hs]

/-- A deletion is told in a status message. -/
theorem confirm_done {s : Session ρ} (h : s.catalog.Complete) {submission : Submission}
    (ho : s.offered = some submission) (ha : (TableDeletion.submit submission s.store s.disk).answer = .ok ()) :
    ∃ text, s.message .deleteDone [toString submission.values.length, submission.joined] = .ok text ∧
      s.confirm = ⟨.ok (),
        Session.setStatus { s.delivered submission with
          page := relisted (s.delivered submission).store s.page.clearChecked } text,
        s.deliveryLog submission ++ reloadLog (s.delivered submission).store "delete"⟩ := by
  obtain ⟨text, ht, hr⟩ := exists_report (s := { s.delivered submission with
    page := relisted (s.delivered submission).store s.page.clearChecked }) h .deleteDone
    [toString submission.values.length, submission.joined]
    (s.deliveryLog submission ++ reloadLog (s.delivered submission).store "delete")
  exact ⟨text, ht, (confirm_ok ho ha).trans hr⟩

/-- A deletion that failed is told in a notice, if the failure need not end the session. -/
theorem confirm_complained {s : Session ρ} (h : s.catalog.Complete) {submission : Submission}
    (ho : s.offered = some submission) {e : Fault}
    (ha : (TableDeletion.submit submission s.store s.disk).answer = .error e) (hf : e.isFatal = false) :
    ∃ title close, s.text .deleteFailedTitle = .ok title ∧ s.text .dialogClose = .ok close ∧
      s.confirm = ⟨.ok (),
        { s.delivered submission with
          page := relisted (s.delivered submission).store s.page
          modal := ModalSlot.empty.showError title e.message close },
        s.deliveryLog submission ++ reloadLog (s.delivered submission).store "failed delete"⟩ := by
  obtain ⟨title, close, ht, hc, hcomplain⟩ :=
    exists_complain (s := s.delivered submission) h .deleteFailedTitle e.message
  refine ⟨title, close, ht, hc, ?_⟩
  rw [confirm_error ho ha hf, hcomplain]
  rfl

theorem confirm_told [MendableStore ρ] {s : Session ρ} (h : s.catalog.Complete) {submission : Submission}
    (ho : s.offered = some submission) {e : Fault}
    (ha : (TableDeletion.submit submission s.store s.disk).answer = .error e) :
    ∃ title close, s.text .deleteFailedTitle = .ok title ∧ s.text .dialogClose = .ok close ∧
      s.confirm = ⟨.ok (),
        { s.delivered submission with
          page := relisted (s.delivered submission).store s.page
          modal := ModalSlot.empty.showError title e.message close },
        s.deliveryLog submission ++ reloadLog (s.delivered submission).store "failed delete"⟩ :=
  confirm_complained h ho ha (TableDeletion.submit_error ha)

theorem confirm_answer [MendableStore ρ] {s : Session ρ} (h : s.catalog.Complete) : s.confirm.answer = .ok () := by
  cases ho : s.offered with
  | none =>
    rw [confirm_of_offered_none ho]
    rfl
  | some submission =>
    cases ha : (TableDeletion.submit submission s.store s.disk).answer with
    | ok =>
      obtain ⟨text, -, hs⟩ := confirm_done h ho ha
      rw [hs]
    | error e =>
      obtain ⟨title, close, -, -, hs⟩ := confirm_told h ho ha
      rw [hs]

/-! ### Requests -/

omit [TableStore ρ] in
theorem updatePage_answer {s : Session ρ} (h : s.catalog.Complete) (hw : s.wording = .deletion)
    (request : PageRequest) : (s.updatePage request).answer = .ok () := by
  cases request with
  | toggleCheck =>
    simp only [updatePage]
    split
    · rfl
    next page _ => exact report_answer (s := { s with page }) h _ _ _
  | delete =>
    obtain ⟨d, hd⟩ := Confirmation.exists_dialog h.contains_wording s.page.form
    simp only [updatePage, Confirmation.activate, hw, hd]
    rfl
  | selectPrevious | selectNext | selectFirst | selectLast | activateRow => rfl

theorem updateModal_answer [MendableStore ρ] {s : Session ρ} (h : s.catalog.Complete) (request : ModalRequest) :
    (s.updateModal request).answer = .ok () := by
  unfold updateModal
  split
  · rfl
  · cases request <;> rfl
  · cases request with
    | close | nextAction | previousAction => rfl
    | submit =>
      simp only [updateDialog]
      split
      · exact confirm_answer h
      · rfl
    | confirm =>
      simp only [updateDialog]
      split
      · exact confirm_answer h
      · rfl

theorem update_answer [MendableStore ρ] {s : Session ρ} (h : s.catalog.Complete) (hw : s.wording = .deletion)
    (r : Request) : (s.update r).answer = .ok () := by
  cases r with
  | page request => exact updatePage_answer h hw request
  | modal request => exact updateModal_answer h request
  | refresh => exact refresh_answer h
  | cycleLanguage => exact cycleLanguage_answer h
  | quit | showHelp | clearStatus | nothing => rfl

/-- What becomes of the failures on the way of a request: each is told to the user or to the log, and the
request goes on to its end. -/
structure FailuresTold (s : Session ρ) (r : Request) : Prop where
  refresh : ∀ e, r = .refresh → TableStore.tables s.store = .error e →
    ∃ text, s.message .statusReloadFailed [] = .ok text ∧
      s.update r = ⟨.ok (), { s with status := some s!"{s.clock.stamp} {text}" },
        [⟨.error, .update, s!"Reloading tables failed: {e.message}"⟩]⟩
  language : ∀ e log, r = .cycleLanguage →
    s.language.next.loadComplete s.messagesDir s.disk = (.error e, log) →
    ∃ title close, s.text .errorTitle = .ok title ∧ s.text .dialogClose = .ok close ∧
      s.update r = ⟨.ok (), { s with modal := s.modal.showError title e.full close },
        log ++ [⟨.error, .update, s!"Switching language failed: {e.full}"⟩]⟩
  deletion : ∀ submission e, s.Confirms r → s.offered = some submission →
    (TableDeletion.submit submission s.store s.disk).answer = .error e →
    ∃ title close, s.text .deleteFailedTitle = .ok title ∧ s.text .dialogClose = .ok close ∧
      s.update r = ⟨.ok (),
        { s.delivered submission with
          page := relisted (s.delivered submission).store s.page
          modal := ModalSlot.empty.showError title e.message close },
        s.deliveryLog submission ++ reloadLog (s.delivered submission).store "failed delete"⟩
  relisting : ∀ submission, s.Confirms r → s.offered = some submission →
    (TableDeletion.submit submission s.store s.disk).answer = .ok () →
    ∃ text, s.message .deleteDone [toString submission.values.length, submission.joined] = .ok text ∧
      s.update r = ⟨.ok (),
        { s.delivered submission with
          page := relisted (s.delivered submission).store s.page.clearChecked
          status := some s!"{s.clock.stamp} {text}" },
        s.deliveryLog submission ++ reloadLog (s.delivered submission).store "delete"⟩

/-- In a session that requests lead to, over a store whose failures can be mended, every request succeeds,
whatever the override files and the store have become. Tables that cannot be listed end in a status message
and a log record, or after a deletion in a log record; messages that cannot be loaded and deletions that fail
end in a notice. -/
theorem never_fails [MendableStore ρ] {s : Session ρ} (h : Reachable RequestMove s) (r : Request) :
    (s.update r).answer = .ok () ∧ s.FailuresTold r := by
  have hc : s.catalog.Complete := h.complete
  refine ⟨update_answer hc h.wording r, ?_, ?_, ?_, ?_⟩
  · rintro e rfl ht
    exact refresh_told hc ht
  · rintro e log rfl hl
    exact cycleLanguage_told hc hl
  · intro submission e hr ho ha
    rw [update_of_confirms hr ho]
    exact confirm_told hc ho ha
  · intro submission hr ho ha
    rw [update_of_confirms hr ho]
    exact confirm_done hc ho ha

/-- Two tables in memory, checked and asked to be deleted, the second of which is gone by then. -/
def goneAsked : Session MemoryTables :=
  let tables := [⟨some "P", "A", some 3⟩, ⟨some "P", "B", none⟩]
  let s := fresh .english none Message.Language.english.builtIn tables (MemoryTables.mk tables) .empty
  let asked := ((s.update (.page .toggleCheck)).state.update (.page .delete)).state
  { asked with clock := ⟨9, 30, 0⟩, store := ⟨[⟨some "P", "A", some 3⟩]⟩ }

theorem goneAsked_reachable : Reachable RequestMove goneAsked :=
  .step (.step (.step (.fresh RequestMove .english rfl .empty) (.answer _ _)) (.answer _ _)) (.elapse _ _ _ _)

theorem goneAsked_never_fails :
    Reachable RequestMove goneAsked ∧ (goneAsked.update (.modal .confirm)).answer = .ok () ∧
      (goneAsked.update (.modal .confirm)).state.modal.current =
        some (.notice "Delete failed" "Table not found: B" "Close") := by
  obtain ⟨ha, ht⟩ := never_fails goneAsked_reachable (.modal .confirm)
  obtain ⟨title, close, htitle, hclose, hu⟩ :=
    ht.deletion ⟨"ao-tables", "delete", ["A", "B"]⟩ (.tableNotFound "B") (.inl rfl) (by rfl) (by rfl)
  obtain rfl : title = "Delete failed" := Except.ok.inj (htitle.symm.trans (by rfl))
  obtain rfl : close = "Close" := Except.ok.inj (hclose.symm.trans (by rfl))
  refine ⟨goneAsked_reachable, ha, ?_⟩
  rw [hu]
  exact ModalSlot.empty.current_showError "Delete failed" (Fault.tableNotFound "B").message "Close"

end Session

end TableDesk
