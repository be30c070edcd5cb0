import TableDesk.Proofs.Message.Overrides
import TableDesk.Proofs.Session.Failure

/-!
A language is switched as a whole or not at all. Whatever the folder of override files has become, a session either
goes on to the next language with all its messages, the override file laid over the built-in texts, or it keeps the
language and the messages that it has and says in a notice what went wrong.
-/

namespace TableDesk.Session

variable {ρ : Type}

/-- One session has gone on to the next language of another one, with some definitions laid over the built-in texts.
Apart from that only a status message is new. -/
structure Switched (s t : Session ρ) (entries : List Message.Entry) : Prop where
  language : t.language = s.language.next
  overlaid : s.language.next.Overlaid entries t.catalog
  resolves : ∀ key args, ∃ text, t.message key args = .ok text
  others : t = { s with language := t.language, catalog := t.catalog, status := t.status }

/-- One session has the language and the messages of another one. Only a notice is new, in words of these messages. -/
structure NotSwitched (s t : Session ρ) : Prop where
  language : t.language = s.language
  catalog : t.catalog = s.catalog
  notice : ∃ title body close, s.text .errorTitle = .ok title ∧ s.text .dialogClose = .ok close ∧
    t.modal.current = some (.notice title body close)
  offered : t.offered = none
  others : t = { s with modal := t.modal }

theorem Switched.keeps {s t : Session ρ} {entries : List Message.Entry} (h : Switched s t entries) :
    t.page = s.page ∧ t.store = s.store ∧ t.disk = s.disk ∧ t.quit = s.quit := by
  rw [h.others]
  exact ⟨rfl, rfl, rfl, rfl⟩

theorem NotSwitched.keeps {s t : Session ρ} (h : NotSwitched s t) :
    t.page = s.page ∧ t.store = s.store ∧ t.disk = s.disk ∧ t.quit = s.quit := by
  rw [h.others]
  exact ⟨rfl, rfl, rfl, rfl⟩

theorem cycleLanguage_switched {s : Session ρ} {entries : List Message.Entry}
    (h : s.language.next.Finds s.disk s.messagesDir entries) : Switched s s.cycleLanguage.state entries := by
  obtain ⟨catalog, hload, hoverlaid⟩ := h.load
  rw [← Message.Language.loadComplete_eq_load] at hload
  have hcomplete : catalog.Complete := Message.Language.complete_of_loadComplete hload
  rcases hl : s.language.next.loadComplete s.messagesDir s.disk with ⟨answer, log⟩
  rw [hl] at hload
  obtain rfl : answer = .ok catalog := hload
  obtain ⟨text, -, hr⟩ := exists_report (s := { s with catalog, language := s.language.next }) hcomplete
    .statusLanguage [s.language.next.displayName]
    (log ++ [⟨.info, .session, s!"Language switched to {s.language.next.code}"⟩])
  rw [cycleLanguage_ok hl, hr]
  exact ⟨rfl, hoverlaid, exists_message hcomplete, rfl⟩

theorem cycleLanguage_notSwitched {s : Session ρ} (hs : s.catalog.Complete)
    (h : s.language.next.FindsUnusable s.disk s.messagesDir) : NotSwitched s s.cycleLanguage.state := by
  obtain ⟨e, hload⟩ := h.load
  rw [← Message.Language.loadComplete_eq_load] at hload
  rcases hl : s.language.next.loadComplete s.messagesDir s.disk with ⟨answer, log⟩
  rw [hl] at hload
  obtain rfl : answer = .error e := hload
  obtain ⟨title, close, ht, hc, hcycle⟩ := cycleLanguage_told hs hl
  rw [hcycle]
  exact ⟨rfl, rfl, ⟨title, e.full, close, ht, hc, rfl⟩, rfl, rfl⟩

variable [TableStore ρ]

/-- In every session that requests lead to, asking for the next language succeeds. If the override file of that
language is missing or an object of texts, then the language is switched, with the file's last definitions laid over
the built-in texts and no message missing. If it cannot be read or is anything else, then the language and the messages
stay as they are and a notice without a submission is shown. One of the two is the case, and the page, the store and
the wish to quit stay as they are in both. -/
theorem language_switch_is_atomic {s : Session ρ} (h : Reachable RequestMove s) :
    let o := s.update .cycleLanguage
    o.answer = .ok () ∧
      (∀ entries, s.language.next.Finds s.disk s.messagesDir entries → Switched s o.state entries) ∧
      (s.language.next.FindsUnusable s.disk s.messagesDir → NotSwitched s o.state) ∧
      ((∃ entries, s.language.next.Finds s.disk s.messagesDir entries) ∨
        s.language.next.FindsUnusable s.disk s.messagesDir) ∧
      o.state.page = s.page ∧ o.state.store = s.store ∧ o.state.disk = s.disk ∧ o.state.quit = s.quit := by
  intro o
  have hfinds := s.language.next.finds_or_findsUnusable s.disk s.messagesDir
  refine ⟨cycleLanguage_answer h.complete, fun _ => cycleLanguage_switched, cycleLanguage_notSwitched h.complete,
    hfinds, ?_⟩
  rcases hfinds with ⟨entries, hfile⟩ | hunusable
  · exact (cycleLanguage_switched hfile).keeps
  · exact (cycleLanguage_notSwitched h.complete hunusable).keeps

/-- An English session without tables, with a text as the Chinese override file. -/
def translatable (content : String) : Session MemoryTables :=
  fresh .english (some "m") Message.Language.english.builtIn [] ⟨[]⟩
    (Disk.empty.put ["m", "messages.zh-CN.json"] (.text content))

theorem translatable_reachable (content : String) : Reachable RequestMove (translatable content) := by
  have hl : (Message.Language.english.loadComplete (some "m") .empty).1 = .ok Message.Language.english.builtIn := by
    rw [Message.Language.loadComplete_eq_load]
    rfl
  have ht : TableStore.tables (MemoryTables.mk []) = .ok [] := rfl
  have hstart := Reachable.fresh_of_loadComplete RequestMove hl ht
  exact hstart.step (.elapse _ .midnight (translatable content).disk (MemoryTables.mk []))

/-- A file that gives the closing label twice, and a text to a name that the program does not know. -/
def doubled : String :=
  "\x7b\"ao.admin.dialog.close\": \"Shut\", \"extra\": \"More\", \"ao.admin.dialog.close\": \"Leave\"\x7d"

theorem translatable_switches :
    (Reachable RequestMove (translatable doubled) ∧
      Switched (translatable doubled) ((translatable doubled).update .cycleLanguage).state
        [⟨"ao.admin.dialog.close", "Shut"⟩, ⟨"extra", "More"⟩, ⟨"ao.admin.dialog.close", "Leave"⟩]) ∧
      Reachable RequestMove (translatable "[]") ∧
      NotSwitched (translatable "[]") ((translatable "[]").update .cycleLanguage).state := by
  obtain ⟨-, hswitched, -⟩ := language_switch_is_atomic (translatable_reachable doubled)
  obtain ⟨-, -, hkept, -⟩ := language_switch_is_atomic (translatable_reachable "[]")
  refine ⟨⟨translatable_reachable doubled, hswitched _ ?_⟩, translatable_reachable "[]", hkept ?_⟩
  · exact .file (by rfl) (by rfl) (by rfl)
  · refine ⟨by rfl, ?_⟩
    intro content entries hread hwrites
    obtain rfl : "[]" = content := Except.ok.inj ((by rfl : _ = _).symm.trans hread)
    cases hwrites

end TableDesk.Session
