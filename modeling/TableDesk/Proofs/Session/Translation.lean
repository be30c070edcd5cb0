import TableDesk.Proofs.Session.Deletion
import TableDesk.Proofs.Session.Failure

/-!
Translations never influence what is deleted. Two sessions that are the same but for their languages, catalogs and
texts stay so through every report of the terminal, as long as the override files that they come across can be read.
Texts go into dialogs and status messages, and nothing that decides about requests, focus or deletions reads them.
-/

namespace TableDesk

/-- A language whose override file can be read, or which has none, can be loaded. -/
theorem Message.Language.exists_loadComplete {language : Language} {folder : Option Path} {disk : Disk}
    (h : ∀ f, folder = some f → disk.contains (language.overrideFile f) = true →
      ∃ templates, overrides (language.overrideFile f) disk = .ok templates) :
    ∃ catalog, (language.loadComplete folder disk).1 = .ok catalog := by
  rw [loadComplete_eq_load]
  unfold load
  cases folder with
  | none => exact ⟨_, rfl⟩
  | some folder =>
    simp only
    split
    next hc =>
      obtain ⟨templates, ht⟩ := h folder rfl hc
      rw [ht]
      exact ⟨_, rfl⟩
    · exact ⟨_, rfl⟩

namespace Session

variable {ρ : Type}

/-- The session has all messages and asks with those for deletions. -/
structure Ready (s : Session ρ) : Prop where
  complete : s.catalog.Complete
  wording : s.wording = .deletion

/-- The override file of the next language can be read and parsed, if there is one. -/
def NextReadable (s : Session ρ) : Prop :=
  ∀ folder, s.messagesDir = some folder → s.disk.contains (s.language.next.overrideFile folder) = true →
    ∃ templates, Message.Language.overrides (s.language.next.overrideFile folder) s.disk = .ok templates

variable [TableStore ρ]

/-- The sessions are the same, texts aside: one page, one kind of thing over it, and stores that answer alike. -/
structure TextsAside (s t : Session ρ) : Prop where
  page : s.page = t.page
  quit : s.quit = t.quit
  outline : s.modal.outline = t.modal.outline
  service : SameService (s.store, s.disk) (t.store, t.disk)

theorem Ready.update {s : Session ρ} (h : s.Ready) (r : Request) : (s.update r).state.Ready where
  complete := (s.update_change r).complete h.complete
  wording := (s.update_change r).wording_eq.trans h.wording

omit [TableStore ρ] in
/-- Where the next language can be loaded, switching to it leaves everything but the language. -/
theorem cycleLanguage_state {s : Session ρ} (h : s.NextReadable) :
    ∃ catalog status, s.cycleLanguage.state = { s with catalog, language := s.language.next, status } := by
  obtain ⟨catalog, hc⟩ := Message.Language.exists_loadComplete h
  have hl : s.language.next.loadComplete s.messagesDir s.disk =
      (.ok catalog, (s.language.next.loadComplete s.messagesDir s.disk).2) := Prod.ext hc rfl
  rw [cycleLanguage_ok hl]
  obtain ⟨status, hs⟩ := report_state { s with catalog, language := s.language.next } .statusLanguage
    [s.language.next.displayName] ((s.language.next.loadComplete s.messagesDir s.disk).2 ++
      [⟨.info, .session, s!"Language switched to {s.language.next.code}"⟩])
  exact ⟨catalog, status, hs⟩

namespace TextsAside

variable {s t : Session ρ}

theorem offered (h : TextsAside s t) : s.offered = t.offered := ModalSlot.pending_of_outline h.outline

theorem confirms_iff (h : TextsAside s t) (r : Request) : s.Confirms r ↔ t.Confirms r := by
  unfold Confirms
  rw [ModalSlot.focusedAction_of_outline h.outline]

theorem relisted (h : TextsAside s t) (p : Page) : relisted s.store p = relisted t.store p := by
  unfold Session.relisted
  rw [h.service.tables]

/-- The same offer is delivered with the same answer, and leaves the same sessions. -/
theorem delivered (h : TextsAside s t) (submission : Submission) :
    (TableDeletion.submit submission s.store s.disk).answer =
        (TableDeletion.submit submission t.store t.disk).answer ∧
      TextsAside (s.delivered submission) (t.delivered submission) :=
  have hsubmit := h.service.submit submission
  ⟨hsubmit.1, ⟨h.page, h.quit, rfl, hsubmit.2⟩⟩

theorem confirm (h : TextsAside s t) (hs : s.Ready) (ht : t.Ready) :
    TextsAside s.confirm.state t.confirm.state := by
  cases ho : s.offered with
  | none =>
    have ho' : t.offered = none := h.offered ▸ ho
    rw [confirm_of_offered_none ho, confirm_of_offered_none ho']
    exact ⟨h.page, h.quit, rfl, h.service⟩
  | some submission =>
    have ho' : t.offered = some submission := h.offered ▸ ho
    obtain ⟨hanswer, hafter⟩ := h.delivered submission
    cases ha : (TableDeletion.submit submission s.store s.disk).answer with
    | ok =>
      obtain ⟨text, -, hstate⟩ := confirm_done hs.complete ho ha
      obtain ⟨text', -, hstate'⟩ := confirm_done ht.complete ho' (hanswer ▸ ha)
      rw [hstate, hstate']
      exact ⟨by rw [setStatus, setStatus, hafter.relisted, h.page], h.quit, rfl, hafter.service⟩
    | error e =>
      cases hf : e.isFatal with
      | true =>
        rw [confirm_fatal ho ha hf, confirm_fatal ho' (hanswer ▸ ha) hf]
        exact hafter
      | false =>
        obtain ⟨title, close, -, -, hstate⟩ := confirm_complained hs.complete ho ha hf
        obtain ⟨title', close', -, -, hstate'⟩ := confirm_complained ht.complete ho' (hanswer ▸ ha) hf
        rw [hstate, hstate']
        exact ⟨by rw [hafter.relisted, h.page], h.quit, ModalSlot.outline_present rfl .empty .empty, hafter.service⟩

theorem updatePage (h : TextsAside s t) (hs : s.Ready) (ht : t.Ready) (request : PageRequest) :
    TextsAside (s.updatePage request).state (t.updatePage request).state := by
  by_cases hr : request = .delete
  · subst hr
    obtain ⟨d, hd⟩ := Confirmation.exists_dialog hs.complete.contains_wording s.page.form
    obtain ⟨d', hd'⟩ := Confirmation.exists_dialog ht.complete.contains_wording t.page.form
    have hp : d.pending = d'.pending := by
      rw [Confirmation.dialog_pending hd, Confirmation.dialog_pending hd', h.page]
    simp only [Session.updatePage, Confirmation.activate, hs.wording, ht.wording, hd, hd', replace_eq]
    exact ⟨h.page, h.quit, ModalSlot.outline_present hp s.modal t.modal, h.service⟩
  · obtain ⟨status, hstate⟩ := s.updatePage_state hr
    obtain ⟨status', hstate'⟩ := t.updatePage_state hr
    rw [hstate, hstate']
    exact ⟨congrArg (Page.run request.ops) h.page, h.quit, h.outline, h.service⟩

theorem updateModal (h : TextsAside s t) (hs : s.Ready) (ht : t.Ready) (request : ModalRequest) :
    TextsAside (s.updateModal request).state (t.updateModal request).state := by
  have hclosed : TextsAside { s with modal := .empty } { t with modal := .empty } := ⟨h.page, h.quit, rfl, h.service⟩
  have hmoved : ∀ move, TextsAside { s with modal := s.modal.moveFocus move } { t with modal := t.modal.moveFocus move } :=
    fun move => ⟨h.page, h.quit, ModalSlot.outline_moveFocus h.outline move, h.service⟩
  unfold Session.updateModal
  rcases ModalSlot.outline_cases h.outline with ⟨ha, hb⟩ | ⟨ha, hb⟩ | ⟨d, d', focus, ha, hb, hp⟩
  · rw [ha, hb]
    exact h
  · rw [ha, hb]
    cases request with
    | close | submit | confirm => exact hclosed
    | nextAction | previousAction => exact h
  · rw [ha, hb]
    cases request with
    | close => exact hclosed
    | nextAction => exact hmoved _
    | previousAction => exact hmoved _
    | submit =>
      simp only [updateDialog, ModalSlot.focusedAction_of_outline h.outline]
      split
      · exact h.confirm hs ht
      · exact hclosed
    | confirm =>
      simp only [updateDialog, ModalSlot.current, ha, hb, Option.any_some, Dialog.hasConfirm_eq, hp]
      split
      · exact h.confirm hs ht
      · exact h

/-- The answer to a request keeps the sessions the same, texts aside. -/
theorem update (h : TextsAside s t) (hs : s.Ready) (ht : t.Ready) (r : Request)
    (hrs : r = .cycleLanguage → s.NextReadable) (hrt : r = .cycleLanguage → t.NextReadable) :
    TextsAside (s.update r).state (t.update r).state := by
  cases r with
  | quit => exact ⟨h.page, rfl, h.outline, h.service⟩
  | page request => exact h.updatePage hs ht request
  | modal request => exact h.updateModal hs ht request
  | refresh =>
    obtain ⟨status, hstate⟩ := s.refresh_state
    obtain ⟨status', hstate'⟩ := t.refresh_state
    simp only [Session.update, hstate, hstate']
    exact ⟨by rw [h.relisted, h.page], h.quit, h.outline, h.service⟩
  | showHelp => exact ⟨h.page, h.quit, rfl, h.service⟩
  | cycleLanguage =>
    obtain ⟨catalog, status, hstate⟩ := cycleLanguage_state (hrs rfl)
    obtain ⟨catalog', status', hstate'⟩ := cycleLanguage_state (hrt rfl)
    simp only [Session.update, hstate, hstate']
    exact ⟨h.page, h.quit, h.outline, h.service⟩
  | clearStatus => exact ⟨h.page, h.quit, h.outline, h.service⟩
  | nothing => exact h

/-- The same request deletes the same tables. -/
theorem deletions (h : TextsAside s t) (r : Request) : s.deletions r = t.deletions r := by
  by_cases hc : ∃ submission, s.Confirms r ∧ s.offered = some submission
  · obtain ⟨submission, hc, ho⟩ := hc
    rw [deletions_of_confirms hc ho, deletions_of_confirms ((h.confirms_iff r).1 hc) (h.offered ▸ ho)]
  · have hs : ∀ submission, s.Confirms r → s.offered ≠ some submission :=
      fun submission hr ho => hc ⟨submission, hr, ho⟩
    have ht : ∀ submission, t.Confirms r → t.offered ≠ some submission := by
      intro submission hr
      rw [← h.offered]
      exact hs submission ((h.confirms_iff r).2 hr)
    rw [deletions_of_not_confirms hs, deletions_of_not_confirms ht]

end TextsAside

/-! ### Reports of the terminal -/

def feed (events : List Input.Event) (s : Session ρ) : Session ρ := events.foldl (fun s e => (s.handle e).state) s

def requestOf (s : Session ρ) (e : Input.Event) : Request := Input.requestOf s.modal.isOpen e

/-- The override files that the session comes across on its way through some reports can be read and parsed. -/
def OverridesReadable (events : List Input.Event) (s : Session ρ) : Prop :=
  ∀ n e, events[n]? = some e → (feed (events.take n) s).requestOf e = .cycleLanguage →
    (feed (events.take n) s).NextReadable

theorem OverridesReadable.head {e : Input.Event} {events : List Input.Event} {s : Session ρ}
    (h : OverridesReadable (e :: events) s) (hr : s.requestOf e = .cycleLanguage) : s.NextReadable :=
  h 0 e rfl hr

theorem OverridesReadable.tail {e : Input.Event} {events : List Input.Event} {s : Session ρ}
    (h : OverridesReadable (e :: events) s) : OverridesReadable events (s.handle e).state :=
  fun n e' he hr => h (n + 1) e' he hr

/-- What is readable on the whole way is readable on a part of it. -/
theorem OverridesReadable.take {events : List Input.Event} {s : Session ρ} (h : OverridesReadable events s)
    (n : Nat) : OverridesReadable (events.take n) s := by
  intro k e he hr
  have hlt : k < n := by
    have := (List.getElem?_eq_some_iff.1 he).1
    rw [List.length_take] at this
    omega
  rw [List.getElem?_take_of_lt hlt] at he
  rw [List.take_take, Nat.min_eq_left (Nat.le_of_lt hlt)] at hr ⊢
  exact h k e he hr

theorem TextsAside.requestOf {s t : Session ρ} (h : TextsAside s t) (e : Input.Event) :
    s.requestOf e = t.requestOf e := by
  unfold Session.requestOf
  rw [ModalSlot.isOpen_of_outline h.outline]

/-- All reports keep the sessions the same, texts aside. -/
theorem TextsAside.feed {s t : Session ρ} (h : TextsAside s t) (hs : s.Ready) (ht : t.Ready)
    {events : List Input.Event} (hrs : s.OverridesReadable events) (hrt : t.OverridesReadable events) :
    TextsAside (feed events s) (feed events t) := by
  induction events generalizing s t with
  | nil => exact h
  | cons e rest ih =>
    have hstep : TextsAside (s.handle e).state (t.handle e).state := by
      have hupdate := h.update hs ht (s.requestOf e) hrs.head fun hr => hrt.head (h.requestOf e ▸ hr)
      rw [handle, handle, ← ModalSlot.isOpen_of_outline h.outline]
      exact hupdate
    exact ih hstep (hs.update _) (ht.update _) hrs.tail hrt.tail

/-- Two sessions have all messages, in whatever languages, and are the same but for their texts. Both are fed the
same reports of the terminal, and the override files that they come across can be read and parsed. Then they are
the same but for their texts after every report, and every report asks both for the same deletions. -/
theorem deletes_alike_in_any_language {s t : Session ρ} (h : TextsAside s t) (hs : s.Ready) (ht : t.Ready)
    {events : List Input.Event} (hrs : s.OverridesReadable events) (hrt : t.OverridesReadable events) (n : Nat) :
    TextsAside (feed (events.take n) s) (feed (events.take n) t) ∧
      TableStore.tables (feed (events.take n) s).store = TableStore.tables (feed (events.take n) t).store ∧
      ∀ e, events[n]? = some e →
        (feed (events.take n) s).deletions ((feed (events.take n) s).requestOf e) =
          (feed (events.take n) t).deletions ((feed (events.take n) t).requestOf e) := by
  have hn := h.feed hs ht (hrs.take n) (hrt.take n)
  refine ⟨hn, hn.service.tables, ?_⟩
  intro e _
  rw [hn.requestOf e]
  exact hn.deletions _

def englishDesk : Session MemoryTables :=
  let tables := [⟨some "P", "A", some 3⟩, ⟨some "Q", "B", none⟩]
  fresh .english none Message.Language.english.builtIn tables ⟨tables⟩ .empty

/-- A Chinese session over the same tables, with a file that overrides English messages. -/
def chineseDesk : Session MemoryTables :=
  let tables := [⟨some "P", "A", some 3⟩, ⟨some "Q", "B", none⟩]
  let disk := Disk.empty.put ["m", "messages.en-US.json"] (.text "\x7b\"ao.admin.dialog.close\": \"Leave\"\x7d")
  fresh .chinese (some "m") Message.Language.chinese.builtIn tables ⟨tables⟩ disk

/-- The keys that switch the language, check the first group, ask for the deletion and confirm it. -/
def switchAndDelete : List Input.Event :=
  let press (modifiers : Input.Modifiers) (code : Input.KeyCode) : Input.Event := .key ⟨code, modifiers, .press⟩
  [press .altOnly (.char 'l'), press .none (.char ' '), press .none .delete, press .none (.char 'y')]

/-- Only the first of these keys switches the language, so no other comes across an override file. -/
theorem overridesReadable_switchAndDelete {s : Session ρ} (h : s.NextReadable) :
    s.OverridesReadable switchAndDelete := by
  have hrest : ∀ e ∈ switchAndDelete.tail, ∀ b, Input.requestOf b e ≠ .cycleLanguage := by decide
  intro n e he hr
  cases n with
  | zero => exact h
  | succ n => exact absurd hr (hrest e (List.mem_of_getElem? he) _)

theorem englishDesk_nextReadable : englishDesk.NextReadable := by
  intro folder hf
  cases hf

theorem chineseDesk_nextReadable : chineseDesk.NextReadable := by
  intro folder hf _
  obtain rfl : "m" = folder := Option.some.inj hf
  cases ho : Message.Language.overrides (Message.Language.english.overrideFile "m") chineseDesk.disk with
  | ok templates => exact ⟨templates, ho⟩
  | error e =>
    have hok : (Message.Language.overrides (Message.Language.english.overrideFile "m") chineseDesk.disk).toOption.isSome :=
      rfl
    rw [ho] at hok
    cases hok

theorem switchAndDelete_deletes_alike :
    TextsAside englishDesk chineseDesk ∧ englishDesk.Ready ∧ chineseDesk.Ready ∧
      englishDesk.OverridesReadable switchAndDelete ∧ chineseDesk.OverridesReadable switchAndDelete ∧
      englishDesk.language ≠ chineseDesk.language ∧
      ∀ e, switchAndDelete[3]? = some e →
        (feed (switchAndDelete.take 3) chineseDesk).deletions
          ((feed (switchAndDelete.take 3) chineseDesk).requestOf e) = [["A"]] := by
  have h : TextsAside englishDesk chineseDesk := ⟨rfl, rfl, rfl, MemoryTables.sameService _ _ _⟩
  have hs : englishDesk.Ready := ⟨Message.Language.builtIn_complete _, rfl⟩
  have ht : chineseDesk.Ready := ⟨Message.Language.builtIn_complete _, rfl⟩
  have hrs := overridesReadable_switchAndDelete englishDesk_nextReadable
  have hrt := overridesReadable_switchAndDelete chineseDesk_nextReadable
  refine ⟨h, hs, ht, hrs, hrt, by decide, ?_⟩
  intro e he
  rw [← (deletes_alike_in_any_language h hs ht hrs hrt 3).2.2 e he]
  cases he
  rfl

end Session

end TableDesk
