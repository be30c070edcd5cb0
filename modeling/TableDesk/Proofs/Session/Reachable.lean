import TableDesk.Proofs.Message.Complete
import TableDesk.Session.Run

/-!
The sessions that the program can come to. A session is started and then changed by moves of some kind:
it answers a request or a report of the terminal, or the world around it goes on in between.
-/

namespace TableDesk.Session

variable {ρ : Type} [TableStore ρ]

/-- The sessions that moves of one kind lead to from any start. -/
inductive Reachable (move : Session ρ → Session ρ → Prop) : Session ρ → Prop
  | start {language : Message.Language} {folder : Option Path} {store : ρ} {disk : Disk} {s : Session ρ} :
      (start language folder store disk).1 = .ok s → Reachable move s
  | step {s t : Session ρ} : Reachable move s → move s t → Reachable move t

/-- A request is answered, or time goes by and others change the disk and the store. -/
inductive RequestMove : Session ρ → Session ρ → Prop
  | answer (s : Session ρ) (r : Request) : RequestMove s (s.update r).state
  | elapse (s : Session ρ) (clock : Clock) (disk : Disk) (store : ρ) :
      RequestMove s { s with clock, disk, store }

/-- A report of the terminal is answered, or time goes by and others change the disk and the store. -/
inductive EventMove : Session ρ → Session ρ → Prop
  | answer (s : Session ρ) (e : Input.Event) : EventMove s (s.handle e).state
  | elapse (s : Session ρ) (clock : Clock) (disk : Disk) (store : ρ) :
      EventMove s { s with clock, disk, store }

theorem EventMove.requestMove {s t : Session ρ} (h : EventMove s t) : RequestMove s t := by
  cases h with
  | answer e => exact .answer s _
  | elapse clock disk store => exact .elapse s clock disk store

theorem Reachable.mono {move other : Session ρ → Session ρ → Prop} (h : ∀ s t, move s t → other s t)
    {s : Session ρ} (hs : Reachable move s) : Reachable other s := by
  induction hs with
  | start hs => exact .start hs
  | step _ hm ih => exact .step ih (h _ _ hm)

/-- A whole run over reports of the terminal is made of such moves. -/
theorem Reachable.run {s : Session ρ} (h : Reachable EventMove s) (events : List Input.Event) :
    Reachable EventMove (s.run events).state := by
  induction events generalizing s with
  | nil => exact h
  | cons event rest ih =>
    have ht : Reachable EventMove (s.handle event).state := h.step (.answer s event)
    rw [Session.run]
    split
    · exact h
    · split
      next t log hs =>
        rw [hs] at ht
        exact ih ht
      next e t log hs =>
        rw [hs] at ht
        exact ht

/-- A session at its start: nothing lies over the page, and no table is checked. -/
def fresh (language : Message.Language) (folder : Option Path) (catalog : Message.Catalog) (tables : List Table)
    (store : ρ) (disk : Disk) : Session ρ where
  quit := false
  status := none
  clock := .midnight
  language := language
  messagesDir := folder
  catalog := catalog
  wording := .deletion
  page := Page.empty.setTables tables
  modal := .empty
  store := store
  disk := disk

/-- A start takes the checked messages of the language and the tables of the store. -/
theorem start_eq_ok {language : Message.Language} {folder : Option Path} {store : ρ} {disk : Disk}
    {s : Session ρ} (h : (start language folder store disk).1 = .ok s) :
    ∃ catalog tables, (language.loadComplete folder disk).1 = .ok catalog ∧
      TableStore.tables store = .ok tables ∧ s = fresh language folder catalog tables store disk := by
  unfold start reload at h
  rcases hl : language.loadComplete folder disk with ⟨answer, log⟩
  cases answer with
  | error e => simp only [hl] at h; contradiction
  | ok catalog =>
    simp only [hl] at h
    cases ht : TableStore.tables store with
    | error e => simp only [ht] at h; contradiction
    | ok tables =>
      simp only [ht] at h
      exact ⟨catalog, tables, rfl, rfl, (Except.ok.inj h).symm⟩

/-- A session starts wherever messages can be loaded and tables be listed. -/
theorem Reachable.fresh_of_loadComplete (move : Session ρ → Session ρ → Prop) {language : Message.Language}
    {folder : Option Path} {catalog : Message.Catalog} {tables : List Table} {store : ρ} {disk : Disk}
    (hl : (language.loadComplete folder disk).1 = .ok catalog) (ht : TableStore.tables store = .ok tables) :
    Reachable move (fresh language folder catalog tables store disk) := by
  have hs : (Session.start language folder store disk).1 =
      .ok (Session.fresh language folder catalog tables store disk) := by
    unfold Session.start reload
    rcases hload : language.loadComplete folder disk with ⟨answer, log⟩
    rw [hload] at hl
    obtain rfl : answer = .ok catalog := hl
    simp only [ht]
    rfl
  exact .start hs

/-- Over a store that lists its tables a session starts in any language with the built-in messages. -/
theorem Reachable.fresh (move : Session ρ → Session ρ → Prop) (language : Message.Language) {store : ρ}
    {tables : List Table} (h : TableStore.tables store = .ok tables) (disk : Disk) :
    Reachable move (fresh language none language.builtIn tables store disk) := by
  have hl : (language.loadComplete none disk).1 = .ok language.builtIn := by
    rw [Message.Language.loadComplete_none]
  exact .fresh_of_loadComplete move hl h

end TableDesk.Session
