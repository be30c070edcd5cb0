import Mathlib.Algebra.Ring.Parity
import TableDesk.Proofs.Session.Isolation
import TableDesk.Proofs.Session.Translation

/-!
Which keys delete. A dialog that asks for a confirmation comes with the focus on the button that closes it. Each key
that moves the focus takes it to the other one of the two buttons, in whichever direction, so that the button in focus
is told by the parity of these keys; and nothing else that leaves the dialog open changes anything. The keys that end
the dialog are those that close it, the one that confirms it, and the one that presses the button in focus.
-/

namespace TableDesk

namespace Input

def endKeys : List Binding := closeKeys ++ [.char 'y', .plain .enter]

theorem presses_endKeys (e : Event) :
    e.presses endKeys = (e.presses closeKeys || (e.presses [.char 'y'] || e.presses [.plain .enter])) := by
  rw [← Event.presses_append, ← Event.presses_append]
  rfl

/-- Of a dialog's keys, those that do not end it move the focus. -/
theorem requestOf_of_not_endKeys {e : Event} (h : e.presses endKeys = false) :
    if e.presses focusKeys = true then requestOf true e = .modal .nextAction ∨ requestOf true e = .modal .previousAction
    else requestOf true e = .nothing := by
  split
  next hfocus => exact (requestOf_eq_focus_iff e).2 hfocus
  next hfocus =>
    rw [presses_endKeys, Bool.or_eq_false_iff, Bool.or_eq_false_iff] at h
    rcases requestOf_true e with hr | ⟨request, hr⟩
    · exact hr
    · exfalso
      cases request with
      | close => simp [(requestOf_eq_close_iff e).1 hr] at h
      | confirm => simp [(requestOf_eq_confirm_iff e).1 hr] at h
      | submit => simp [(requestOf_eq_submit_iff e).1 hr] at h
      | nextAction => exact hfocus ((requestOf_eq_focus_iff e).1 (.inl hr))
      | previousAction => exact hfocus ((requestOf_eq_focus_iff e).1 (.inr hr))

end Input

namespace Session

variable {ρ : Type}

/-- The dialog lies over the page, offers the submission, and has the focus on one of its two buttons. -/
structure Asking (s : Session ρ) (d : Dialog) (submission : Submission) (focus : Nat) : Prop where
  active : s.modal.active = some (.dialog d focus)
  pending : d.pending = some submission
  focus_lt : focus < 2

variable [TableStore ρ]

/-- The dialog lies over the page all the way through some reports. -/
def StaysOpen (d : Dialog) (events : List Input.Event) (s : Session ρ) : Prop :=
  ∀ n, (feed (events.take n) s).modal.current = some d

/-- The report hands the submission to the store's service: the dialog is confirmed, which takes it away and delivers
the submission after that, once. -/
structure Submits (s : Session ρ) (e : Input.Event) (submission : Submission) : Prop where
  confirms : s.handle e = s.confirm
  calls : Confirmation.confirmCalls s = [.withdraw, .submit submission]
  service : ((s.handle e).state.store, (s.handle e).state.disk) =
    (TableDeletion.submit submission s.store s.disk).state

/-- The report takes away what lies over the page and does nothing else. -/
def Dismisses (s : Session ρ) (e : Input.Event) : Prop := s.handle e = done { s with modal := .empty }

namespace Asking

variable {s : Session ρ} {d : Dialog} {submission : Submission} {focus : Nat} {e : Input.Event}

omit [TableStore ρ] in
theorem current (h : s.Asking d submission focus) : s.modal.current = some d := by
  rw [ModalSlot.current, h.active]

omit [TableStore ρ] in
theorem isOpen (h : s.Asking d submission focus) : s.modal.isOpen = true := by
  rw [ModalSlot.isOpen, h.active]
  rfl

omit [TableStore ρ] in
theorem offered (h : s.Asking d submission focus) : s.offered = some submission := by
  rw [Session.offered, h.current, Option.bind_some, h.pending]

/-- Requests to the dialog are carried out as such. -/
theorem handle (h : s.Asking d submission focus) {request : ModalRequest}
    (hr : Input.requestOf true e = .modal request) : s.handle e = s.updateDialog request := by
  rw [Session.handle, h.isOpen, hr, update, updateModal, h.active]

/-! ### One report -/

theorem submits (h : s.Asking d submission focus) (hc : s.handle e = s.confirm) : s.Submits e submission where
  confirms := hc
  calls := by
    rw [Confirmation.confirmCalls_eq, show (DialogHost.withdraw s).1.bind Dialog.pending = some submission from h.offered]
    rfl
  service := by
    obtain ⟨answer, page, status, modal, more, hconfirm, -⟩ := exists_confirm_eq h.offered
    rw [hc, hconfirm]
    rfl

/-- A dialog is not dismissed and confirmed at once, since a delivery is logged. -/
theorem not_submits (h : s.Asking d submission focus) (hd : s.Dismisses e) : ¬ s.Submits e submission := by
  intro hs
  obtain ⟨answer, page, status, modal, more, hconfirm, -⟩ := exists_confirm_eq h.offered
  have hlog : (done { s with modal := .empty }).log = s.deliveryLog submission ++ more := by
    rw [← hd, hs.confirms, hconfirm]
  exact absurd hlog (by simp [done, deliveryLog])

theorem submits_of_yes (h : s.Asking d submission focus) (he : e.presses [.char 'y'] = true) :
    s.Submits e submission := by
  have hd : d.hasConfirm = true := by rw [d.hasConfirm_eq, h.pending]; rfl
  refine h.submits ?_
  rw [h.handle ((Input.requestOf_eq_confirm_iff e).2 he), updateDialog, h.current, Option.any_some, if_pos hd]

theorem dismisses_of_close (h : s.Asking d submission focus) (he : e.presses Input.closeKeys = true) :
    s.Dismisses e := by
  rw [Dismisses, h.handle ((Input.requestOf_eq_close_iff e).2 he)]
  rfl

/-- The first button confirms the dialog. -/
theorem submits_of_enter (h : s.Asking d submission 0) (he : e.presses [.plain .enter] = true) :
    s.Submits e submission := by
  have hf : s.modal.focusedAction = some .confirm := ModalSlot.focusedAction_eq h.active h.pending
  refine h.submits ?_
  rw [h.handle ((Input.requestOf_eq_submit_iff e).2 he), updateDialog, hf]

/-- The second button closes the dialog. -/
theorem dismisses_of_enter (h : s.Asking d submission 1) (he : e.presses [.plain .enter] = true) :
    s.Dismisses e := by
  have hf : s.modal.focusedAction = some .dismiss := ModalSlot.focusedAction_eq h.active h.pending
  rw [Dismisses, h.handle ((Input.requestOf_eq_submit_iff e).2 he), updateDialog, hf]
  rfl

/-- A report that does not end the dialog moves the focus to the other button or does nothing. -/
theorem handle_of_not_endKeys (h : s.Asking d submission focus) (he : e.presses Input.endKeys = false) :
    s.handle e = if e.presses Input.focusKeys = true then
      done { s with modal := ⟨some (.dialog d ((focus + 1) % 2))⟩ } else done s := by
  have hr := Input.requestOf_of_not_endKeys he
  split
  next hfocus =>
    rw [if_pos hfocus] at hr
    rcases hr with hr | hr
    · rw [h.handle hr, updateDialog, ModalSlot.focusNext_eq h.active h.pending]
    · rw [h.handle hr, updateDialog, ModalSlot.focusPrevious_eq h.active h.pending]
  next hfocus =>
    rw [if_neg hfocus] at hr
    rw [Session.handle, h.isOpen, hr, update]

/-- After a key that ends the dialog, whatever lies over the page offers nothing. -/
theorem offered_of_endKeys (h : s.Asking d submission focus) (he : e.presses Input.endKeys = true) :
    (s.handle e).state.offered = none := by
  have hdismissed : s.Dismisses e → (s.handle e).state.offered = none := by
    intro hd
    rw [hd]
    rfl
  have hsubmitted : s.Submits e submission → (s.handle e).state.offered = none := by
    intro hs
    obtain ⟨answer, page, status, modal, more, hconfirm, hnone⟩ := exists_confirm_eq h.offered
    rw [hs.confirms, hconfirm]
    exact hnone
  rw [Input.presses_endKeys, Bool.or_eq_true, Bool.or_eq_true] at he
  rcases he with hclose | hyes | henter
  · exact hdismissed (h.dismisses_of_close hclose)
  · exact hsubmitted (h.submits_of_yes hyes)
  · obtain rfl | rfl : focus = 0 ∨ focus = 1 := by
      have := h.focus_lt
      omega
    · exact hsubmitted (h.submits_of_enter henter)
    · exact hdismissed (h.dismisses_of_enter henter)

/-! ### Reports that leave the dialog open -/

/-- Reports that do not end the dialog move the focus as often as there are keys for it, and do nothing else. -/
theorem feed (h : s.Asking d submission focus) {events : List Input.Event}
    (he : ∀ e ∈ events, e.presses Input.endKeys = false) :
    Session.feed events s =
      { s with modal := ⟨some (.dialog d ((focus + events.countP (·.presses Input.focusKeys)) % 2))⟩ } := by
  induction events generalizing s focus with
  | nil =>
    have hfocus : focus % 2 = focus := Nat.mod_eq_of_lt h.focus_lt
    have hmodal : s.modal = ⟨some (.dialog d focus)⟩ := by rw [← h.active]
    show s = _
    rw [List.countP_nil, Nat.add_zero, hfocus, ← hmodal]
  | cons e rest ih =>
    have hstep := h.handle_of_not_endKeys (he e List.mem_cons_self)
    have hrest : ∀ e ∈ rest, e.presses Input.endKeys = false := fun e hm => he e (List.mem_cons_of_mem _ hm)
    show Session.feed rest (s.handle e).state = _
    rw [hstep, List.countP_cons]
    split
    next hfocus =>
      have hmoved : Asking { s with modal := ⟨some (.dialog d ((focus + 1) % 2))⟩ } d submission ((focus + 1) % 2) :=
        ⟨rfl, h.pending, Nat.mod_lt _ Nat.two_pos⟩
      have hcount : ((focus + 1) % 2 + rest.countP (·.presses Input.focusKeys)) % 2 =
          (focus + (rest.countP (·.presses Input.focusKeys) + 1)) % 2 := by omega
      rw [done, ih hmoved hrest, hcount]
    next hfocus =>
      rw [done, ih h hrest, Nat.add_zero]

/-- The dialog stays open exactly through reports that press none of the keys that end it. -/
theorem staysOpen_iff (h : s.Asking d submission focus) (events : List Input.Event) :
    s.StaysOpen d events ↔ ∀ e ∈ events, e.presses Input.endKeys = false := by
  constructor
  · intro hopen
    induction events generalizing s focus with
    | nil => simp
    | cons e rest ih =>
      have hfirst : (s.handle e).state.modal.current = some d := hopen 1
      have he : e.presses Input.endKeys = false := by
        by_contra hend
        have hnone := h.offered_of_endKeys (eq_true_of_ne_false hend)
        rw [Session.offered, hfirst, Option.bind_some, h.pending] at hnone
        contradiction
      have hnext : ∃ other, (s.handle e).state.Asking d submission other := by
        rw [h.handle_of_not_endKeys he]
        split
        · exact ⟨_, rfl, h.pending, Nat.mod_lt _ Nat.two_pos⟩
        · exact ⟨focus, h⟩
      obtain ⟨other, hnext⟩ := hnext
      rw [List.forall_mem_cons]
      exact ⟨he, ih hnext fun n => hopen (n + 1)⟩
  · intro he n
    rw [h.feed fun e hm => he e (List.mem_of_mem_take hm)]
    rfl

end Asking

/-! ### From the key for deletions on -/

/-- A dialog that the key for deletions opens and that offers a submission has the focus on the closing button. -/
theorem asking_of_deleteKeys {s : Session ρ} (hclosed : s.modal.isOpen = false) {e : Input.Event}
    (he : e.presses Input.deleteKeys = true) {d : Dialog} (hd : (s.handle e).state.modal.current = some d)
    {submission : Submission} (hp : d.pending = some submission) : (s.handle e).state.Asking d submission 1 := by
  rw [handle, hclosed, (Input.requestOf_eq_delete_iff e).2 he] at hd ⊢
  simp only [update, updatePage, Confirmation.activate] at hd ⊢
  cases hdialog : Confirmation.dialog s.wording s.page.form s.catalog with
  | error fault =>
    simp only [hdialog] at hd
    rw [ModalSlot.current_of_not_isOpen hclosed] at hd
    contradiction
  | ok made =>
    simp only [hdialog, replace_eq] at hd ⊢
    obtain rfl : made = d := Option.some.inj ((s.modal.current_present made).symm.trans hd)
    refine ⟨?_, hp, Nat.one_lt_two⟩
    rw [ModalSlot.present, ModalSlot.initialFocus_eq_one hp]

/-- The key for deletions has opened a dialog that offers a submission, and some reports have left the dialog open.
The key of the button in focus then hands the submission over exactly if the focus has been moved an odd number of
times, and otherwise dismisses the dialog. The key that confirms hands it over in any case, the keys that close dismiss
the dialog, and a report that is none of these keys and does not move the focus changes nothing. -/
theorem enter_submits_after_odd_moves {s : Session ρ} (hclosed : s.modal.isOpen = false) {asking : Input.Event}
    (hasking : asking.presses Input.deleteKeys = true) {d : Dialog}
    (hd : (s.handle asking).state.modal.current = some d) {submission : Submission}
    (hp : d.pending = some submission) {events : List Input.Event}
    (hopen : (s.handle asking).state.StaysOpen d events) (e : Input.Event) :
    let t := feed events (s.handle asking).state
    (e.presses [.plain .enter] = true →
        (t.Submits e submission ↔ Odd (events.countP (·.presses Input.focusKeys))) ∧
          (¬ Odd (events.countP (·.presses Input.focusKeys)) → t.Dismisses e)) ∧
      (e.presses [.char 'y'] = true → t.Submits e submission) ∧
      (e.presses Input.closeKeys = true → t.Dismisses e) ∧
      (e.presses (Input.endKeys ++ Input.focusKeys) = false → t.handle e = done t) := by
  intro t
  have hfirst := asking_of_deleteKeys hclosed hasking hd hp
  have hfeed : t = { (s.handle asking).state with
      modal := ⟨some (.dialog d ((1 + events.countP (·.presses Input.focusKeys)) % 2))⟩ } :=
    hfirst.feed ((hfirst.staysOpen_iff events).1 hopen)
  have hasks : t.Asking d submission ((1 + events.countP (·.presses Input.focusKeys)) % 2) := by
    rw [hfeed]
    exact ⟨rfl, hp, Nat.mod_lt _ Nat.two_pos⟩
  refine ⟨fun henter => ?_, hasks.submits_of_yes, hasks.dismisses_of_close, fun hother => ?_⟩
  · rw [Nat.odd_iff]
    by_cases hodd : events.countP (·.presses Input.focusKeys) % 2 = 1
    · have hfocus : (1 + events.countP (·.presses Input.focusKeys)) % 2 = 0 := by omega
      rw [hfocus] at hasks
      exact ⟨iff_of_true (hasks.submits_of_enter henter) hodd, fun hn => absurd hodd hn⟩
    · have hfocus : (1 + events.countP (·.presses Input.focusKeys)) % 2 = 1 := by omega
      rw [hfocus] at hasks
      have hdismissed := hasks.dismisses_of_enter henter
      exact ⟨iff_of_false (hasks.not_submits hdismissed) hodd, fun _ => hdismissed⟩
  · rw [Input.Event.presses_append, Bool.or_eq_false_iff] at hother
    rw [hasks.handle_of_not_endKeys hother.1, if_neg (by simp [hother.2])]

/-- Of the dialog of two checked tables, three keys move the focus, with the release of a key between them. The button
in focus then deletes. -/
theorem twoAsked_enter_submits :
    let press (modifiers : Input.Modifiers) (code : Input.KeyCode) : Input.Event := .key ⟨code, modifiers, .press⟩
    let desk : Session MemoryTables := { twoAsked with modal := .empty }
    let asked := (desk.handle (press .none .delete)).state
    let events := [press .none .tab, .key ⟨.enter, .none, .release⟩, press .none .left,
      press { Input.Modifiers.none with shift := true } .backTab]
    ∃ d, asked.modal.current = some d ∧ asked.StaysOpen d events ∧
      (feed events asked).Submits (press .none .enter) ⟨"ao-tables", "delete", ["A", "B"]⟩ := by
  intro press desk asked events
  obtain ⟨d, hd, hp⟩ : ∃ d, asked.modal.current = some d ∧ d.pending = some ⟨"ao-tables", "delete", ["A", "B"]⟩ :=
    ⟨_, rfl, rfl⟩
  have hclosed : desk.modal.isOpen = false := by rfl
  have hdelete : (press .none .delete).presses Input.deleteKeys = true := by decide
  have hopen : asked.StaysOpen d events :=
    ((asking_of_deleteKeys hclosed hdelete hd hp).staysOpen_iff events).2 (by decide)
  have hsubmits := (enter_submits_after_odd_moves hclosed hdelete hd hp hopen (press .none .enter)).1 (by decide)
  exact ⟨d, hd, hopen, hsubmits.1.2 (by decide)⟩

end Session

end TableDesk
