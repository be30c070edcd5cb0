import TableDesk.Message.Localization
import TableDesk.Modal
import TableDesk.Proofs.Confirmation

/-!
What is delivered in a whole run of activations, confirmations and dismissals. A place of dialogs and a receiver
know nothing of each other; the receiver may refuse whatever it gets. A confirmation delivers what the last
activation that succeeded has shown, if nothing has taken it away since, so that every activation has at most
one delivery.
-/

namespace TableDesk.Confirmation

/-- A place of dialogs and a receiver of submissions side by side. -/
structure Parties (η τ : Type) where
  host : η
  target : τ

/-- A delivery, with the dialog that was shown at that moment. -/
structure Delivery where
  submission : Submission
  shown : Option Dialog

/-- A state with an account of the deliveries asked of it, in order. -/
structure Watched (σ : Type) where
  state : σ
  deliveries : List Delivery

section Instances

variable {η τ σ : Type}

instance [DialogHost η] : DialogHost (Parties η τ) where
  current p := DialogHost.current p.host
  present d p := { p with host := DialogHost.present d p.host }
  withdraw p := ((DialogHost.withdraw p.host).1, { p with host := (DialogHost.withdraw p.host).2 })

instance [DialogHost η] [LawfulDialogHost η] : LawfulDialogHost (Parties η τ) where
  current_present d p := LawfulDialogHost.current_present d p.host
  withdraw_fst p := LawfulDialogHost.withdraw_fst p.host
  current_withdraw p := LawfulDialogHost.current_withdraw p.host

instance [SubmitTarget τ] : SubmitTarget (Parties η τ) where
  submit submission p :=
    let o := SubmitTarget.submit submission p.target
    ⟨o.answer, { p with target := o.state }, o.log⟩

instance [DialogHost σ] : DialogHost (Watched σ) where
  current w := DialogHost.current w.state
  present d w := { w with state := DialogHost.present d w.state }
  withdraw w := ((DialogHost.withdraw w.state).1, { w with state := (DialogHost.withdraw w.state).2 })

instance [DialogHost σ] [SubmitTarget σ] : SubmitTarget (Watched σ) where
  submit submission w :=
    let o := SubmitTarget.submit submission w.state
    ⟨o.answer, ⟨o.state, w.deliveries ++ [⟨submission, DialogHost.current w.state⟩]⟩, o.log⟩

end Instances

/-! ### Runs -/

/-- What can be asked: each activation comes with its own form, catalog and names of messages. -/
inductive Op where
  | activate (wording : Wording) (form : Form) (catalog : Message.Catalog)
  | confirm
  | dismiss

variable {σ : Type} [DialogHost σ] [SubmitTarget σ]

/-- The answer to an operation and the state after it. -/
def Op.run : Op → σ → Except Fault Phase × σ
  | .activate wording form catalog, s =>
    let o := Confirmation.activate wording form catalog s
    (o.answer, o.state)
  | .confirm, s =>
    let o := Confirmation.confirm s
    (o.answer, o.state)
  | .dismiss, s => (.ok .idle, Confirmation.dismiss s)

def run (ops : List Op) (s : σ) : σ := ops.foldl (fun s o => (o.run s).2) s

@[simp] theorem run_nil (s : σ) : run [] s = s := rfl

@[simp] theorem run_cons (o : Op) (ops : List Op) (s : σ) : run (o :: ops) s = run ops (o.run s).2 := rfl

theorem run_append (ops more : List Op) (s : σ) : run (ops ++ more) s = run more (run ops s) :=
  List.foldl_append

/-- An account of the deliveries changes neither the answer to an operation nor the state after it. -/
theorem Op.run_watched (o : Op) (w : Watched σ) :
    (o.run w).1 = (o.run w.state).1 ∧ (o.run w).2.state = (o.run w.state).2 := by
  cases o with
  | activate wording form catalog =>
    simp only [Op.run, Confirmation.activate]
    cases dialog wording form catalog with
    | error e => exact ⟨rfl, rfl⟩
    | ok d =>
      refine ⟨rfl, ?_⟩
      simp only [replace, DialogHost.current]
      split <;> rfl
  | confirm =>
    simp only [Op.run, Confirmation.confirm, DialogHost.withdraw]
    split <;> exact ⟨rfl, rfl⟩
  | dismiss => exact ⟨rfl, rfl⟩

theorem run_watched (ops : List Op) (w : Watched σ) : (run ops w).state = run ops w.state := by
  induction ops generalizing w with
  | nil => rfl
  | cons o rest ih => rw [run_cons, run_cons, ih, (o.run_watched w).2]

def Op.deliveries (o : Op) (s : σ) : List Delivery := (o.run (Watched.mk s [])).2.deliveries

/-- The deliveries that the operation at a position of a run asks for. -/
def deliveriesAt (s : σ) (ops : List Op) (j : Nat) : List Delivery :=
  match ops[j]? with
  | some o => o.deliveries (run (ops.take j) s)
  | none => []

theorem Op.deliveries_run (o : Op) (w : Watched σ) :
    (o.run w).2.deliveries = w.deliveries ++ o.deliveries w.state := by
  cases o with
  | activate wording form catalog =>
    simp only [Op.deliveries, Op.run, Confirmation.activate]
    cases dialog wording form catalog with
    | error e => exact (List.append_nil _).symm
    | ok d =>
      simp only [replace, DialogHost.current]
      split <;> exact (List.append_nil _).symm
  | confirm =>
    simp only [Op.deliveries, Op.run, Confirmation.confirm, DialogHost.withdraw]
    split
    · exact (List.append_nil _).symm
    · rfl
  | dismiss => exact (List.append_nil _).symm

/-- The account of a run is made of what its operations ask for. -/
theorem deliveries_run (ops : List Op) (w : Watched σ) :
    (run ops w).deliveries = w.deliveries ++ (List.range ops.length).flatMap (deliveriesAt w.state ops) := by
  induction ops generalizing w with
  | nil => simp
  | cons o rest ih =>
    have hhead : deliveriesAt w.state (o :: rest) 0 = o.deliveries w.state := rfl
    have htail : ∀ j, deliveriesAt w.state (o :: rest) (j + 1) = deliveriesAt (o.run w).2.state rest j := by
      intro j
      rw [(o.run_watched w).2]
      rfl
    rw [run_cons, ih, o.deliveries_run, List.length_cons, List.range_succ_eq_map, List.flatMap_cons,
      List.flatMap_map, List.append_assoc, hhead]
    simp only [htail]

/-- The confirmation at position `j` is about the activation of a form at position `i`: the activation succeeded,
and in between there are only activations that failed. -/
structure Answers (s : σ) (ops : List Op) (i : Nat) (form : Form) (j : Nat) : Prop where
  activated : ∃ wording catalog phase, ops[i]? = some (.activate wording form catalog) ∧
    ((Op.activate wording form catalog).run (run (ops.take i) s)).1 = .ok phase
  confirmed : ops[j]? = some .confirm
  lt : i < j
  between : ∀ k, i < k → k < j → ∃ wording form catalog e, ops[k]? = some (.activate wording form catalog) ∧
    ((Op.activate wording form catalog).run (run (ops.take k) s)).1 = .error e

/-- An activation is behind one confirmation at most. -/
theorem Answers.eq {s : σ} {ops : List Op} {i j j' : Nat} {form form' : Form} (h : Answers s ops i form j)
    (h' : Answers s ops i form' j') : j = j' := by
  -- otherwise the earlier confirmation would be an activation
  have hle : ∀ {j j' : Nat} {form form' : Form}, Answers s ops i form j → Answers s ops i form' j' → ¬ j < j' := by
    intro j j' form form' h h' hlt
    obtain ⟨wording, other, catalog, e, hk, -⟩ := h'.between j h.lt hlt
    rw [h.confirmed] at hk
    cases hk
  exact Nat.le_antisymm (Nat.not_lt.1 (hle h' h)) (Nat.not_lt.1 (hle h h'))

/-! ### What is shown -/

/-- The dialog that is shown after an operation, given the one shown before. -/
def Op.leaves : Op → Option Dialog → Option Dialog
  | .activate wording form catalog, shown =>
    match dialog wording form catalog with
    | .ok d => some d
    | .error _ => shown
  | .confirm, _ | .dismiss, _ => none

section Parties

variable {η τ : Type} [DialogHost η] [LawfulDialogHost η] [SubmitTarget τ]

theorem Op.current_run (o : Op) (p : Parties η τ) :
    DialogHost.current (o.run p).2 = o.leaves (DialogHost.current p) := by
  cases o with
  | activate wording form catalog =>
    simp only [Op.run, Confirmation.activate, Op.leaves]
    cases dialog wording form catalog with
    | error e => rfl
    | ok d => exact LawfulDialogHost.current_present d _
  | confirm =>
    have hnone : DialogHost.current (DialogHost.withdraw p).2 = none := LawfulDialogHost.current_withdraw p
    simp only [Op.run, Confirmation.confirm, Op.leaves]
    -- the receiver does not reach the place of the dialogs
    split <;> exact hnone
  | dismiss => exact LawfulDialogHost.current_withdraw p

/-- A confirmation delivers what the shown dialog offers, after nothing is shown any more. -/
theorem Op.deliveries_confirm (p : Parties η τ) :
    Op.confirm.deliveries p =
      (((DialogHost.current p).bind Dialog.pending).map fun submission => Delivery.mk submission none).toList := by
  have hfst : (DialogHost.withdraw (Watched.mk p [])).1 = DialogHost.current p := LawfulDialogHost.withdraw_fst p
  have hnone : DialogHost.current (DialogHost.withdraw (Watched.mk p [])).2 = none :=
    LawfulDialogHost.current_withdraw p
  simp only [Op.deliveries, Op.run, Confirmation.confirm, hfst]
  split
  next hp => rw [hp]; rfl
  next submission hp =>
    rw [hp]
    simp only [SubmitTarget.submit]
    rw [show DialogHost.current (DialogHost.withdraw (Watched.mk p [])).2.state = none from hnone]
    rfl

omit [LawfulDialogHost η] in
theorem Op.deliveries_activate (wording : Wording) (form : Form) (catalog : Message.Catalog) (p : Parties η τ) :
    (Op.activate wording form catalog).deliveries p = [] := by
  simp only [Op.deliveries, Op.run, Confirmation.activate]
  cases dialog wording form catalog with
  | error e => rfl
  | ok d =>
    simp only [replace, DialogHost.current]
    split <;> rfl

end Parties

/-- The dialog made for a form at position `i` of a run is still shown before position `j`. -/
structure ShownSince (ops : List Op) (i : Nat) (form : Form) (d : Dialog) (j : Nat) : Prop where
  made : ∃ wording catalog, ops[i]? = some (.activate wording form catalog) ∧ dialog wording form catalog = .ok d
  lt : i < j
  between : ∀ k, i < k → k < j → ∃ wording form catalog e,
    ops[k]? = some (.activate wording form catalog) ∧ dialog wording form catalog = .error e

/-- One position further, the dialog is the one that was made there, or one that was left there. -/
theorem exists_shownSince_succ {ops : List Op} {j : Nat} {o : Op} (hj : ops[j]? = some o) {shown : Option Dialog}
    (hs : ∀ d, shown = some d ↔ ∃ i form, ShownSince ops i form d j) (d : Dialog) :
    o.leaves shown = some d ↔ ∃ i form, ShownSince ops i form d (j + 1) := by
  constructor
  · intro hd
    cases o with
    | confirm | dismiss => contradiction
    | activate wording form catalog =>
      simp only [Op.leaves] at hd
      split at hd
      next made hm =>
        obtain rfl : made = d := Option.some.inj hd
        exact ⟨j, form, ⟨wording, catalog, hj, hm⟩, Nat.lt_succ_self j, fun k h h' => by omega⟩
      next e he =>
        obtain ⟨i, other, hmade, hlt, hbetween⟩ := (hs d).1 hd
        refine ⟨i, other, hmade, Nat.lt_succ_of_lt hlt, ?_⟩
        intro k hi hk
        rcases Nat.lt_succ_iff_lt_or_eq.1 hk with hk | rfl
        · exact hbetween k hi hk
        · exact ⟨wording, form, catalog, e, hj, he⟩
  · rintro ⟨i, form, ⟨wording, catalog, hi, hd⟩, hlt, hbetween⟩
    rcases Nat.lt_succ_iff_lt_or_eq.1 hlt with hlt | rfl
    · -- what stands at position `j` comes after position `i`, so it is an activation that failed
      obtain ⟨wording', form', catalog', e, hk, he⟩ := hbetween j hlt (Nat.lt_succ_self j)
      obtain rfl : o = .activate wording' form' catalog' := Option.some.inj (hj.symm.trans hk)
      have hold : shown = some d :=
        (hs d).2 ⟨i, form, ⟨wording, catalog, hi, hd⟩, hlt, fun k h h' => hbetween k h (Nat.lt_succ_of_lt h')⟩
      simp only [Op.leaves, he, hold]
    · obtain rfl : o = .activate wording form catalog := Option.some.inj (hj.symm.trans hi)
      simp only [Op.leaves, hd]

variable {η τ : Type} [DialogHost η] [LawfulDialogHost η] [SubmitTarget τ]

/-- In a run from a place that shows nothing, what is shown is what the last activation that succeeded made, if
nothing has taken it away since. -/
theorem current_run_take {p : Parties η τ} (h : DialogHost.current p = none) (ops : List Op) {j : Nat}
    (hj : j ≤ ops.length) (d : Dialog) :
    DialogHost.current (run (ops.take j) p) = some d ↔ ∃ i form, ShownSince ops i form d j := by
  induction j generalizing d with
  | zero =>
    simp only [List.take_zero, run_nil, h]
    exact ⟨fun hd => by contradiction, fun ⟨_, _, hs⟩ => absurd hs.lt (Nat.not_lt_zero _)⟩
  | succ j ih =>
    have hget : ops[j]? = some ops[j] := List.getElem?_eq_getElem hj
    rw [List.take_add_one, hget, run_append, Option.toList_some, run_cons, run_nil, Op.current_run]
    exact exists_shownSince_succ hget (ih (Nat.le_of_succ_le hj)) d

/-- An activation succeeds if its dialog can be made. -/
theorem exists_run_activate_eq_ok {σ : Type} [DialogHost σ] [SubmitTarget σ] {wording : Wording} {form : Form}
    {catalog : Message.Catalog} {s : σ} :
    (∃ phase, ((Op.activate wording form catalog).run s).1 = .ok phase) ↔
      ∃ d, dialog wording form catalog = .ok d := by
  simp only [Op.run, Confirmation.activate]
  cases dialog wording form catalog <;> simp

theorem exists_run_activate_eq_error {σ : Type} [DialogHost σ] [SubmitTarget σ] {wording : Wording} {form : Form}
    {catalog : Message.Catalog} {s : σ} :
    (∃ e, ((Op.activate wording form catalog).run s).1 = .error e) ↔
      ∃ e, dialog wording form catalog = .error e := by
  simp only [Op.run, Confirmation.activate]
  cases dialog wording form catalog <;> simp

omit [LawfulDialogHost η] in
/-- A confirmation is about an activation if the dialog of the activation is still shown. -/
theorem answers_iff {p : Parties η τ} {ops : List Op} {i j : Nat} {form : Form} :
    Answers p ops i form j ↔ ops[j]? = some .confirm ∧ ∃ d, ShownSince ops i form d j := by
  constructor
  · rintro ⟨⟨wording, catalog, phase, hi, ha⟩, hj, hlt, hbetween⟩
    obtain ⟨d, hd⟩ := exists_run_activate_eq_ok.1 ⟨phase, ha⟩
    refine ⟨hj, d, ⟨wording, catalog, hi, hd⟩, hlt, ?_⟩
    intro k hik hkj
    obtain ⟨wording', form', catalog', e, hk, he⟩ := hbetween k hik hkj
    obtain ⟨e', he'⟩ := exists_run_activate_eq_error.1 ⟨e, he⟩
    exact ⟨wording', form', catalog', e', hk, he'⟩
  · rintro ⟨hj, d, ⟨wording, catalog, hi, hd⟩, hlt, hbetween⟩
    obtain ⟨phase, ha⟩ := (exists_run_activate_eq_ok (s := run (ops.take i) p)).2 ⟨d, hd⟩
    refine ⟨⟨wording, catalog, phase, hi, ha⟩, hj, hlt, ?_⟩
    intro k hik hkj
    obtain ⟨wording', form', catalog', e, hk, he⟩ := hbetween k hik hkj
    obtain ⟨e', he'⟩ := (exists_run_activate_eq_error (s := run (ops.take k) p)).2 ⟨e, he⟩
    exact ⟨wording', form', catalog', e', hk, he'⟩

/-! ### What is delivered -/

/-- The confirmation of an activation delivers the submission of its form, if anything is checked there. -/
theorem deliveriesAt_of_answers {p : Parties η τ} (h : DialogHost.current p = none) {ops : List Op} {i j : Nat}
    {form : Form} (ha : Answers p ops i form j) :
    deliveriesAt p ops j = if form.checkedValues = [] then [] else [⟨form.submission, none⟩] := by
  obtain ⟨hj, d, hd⟩ := answers_iff.1 ha
  obtain ⟨hlt, -⟩ := List.getElem?_eq_some_iff.1 hj
  have hshown := (current_run_take h ops (Nat.le_of_lt hlt) d).2 ⟨i, form, hd⟩
  obtain ⟨wording, catalog, -, hmade⟩ := hd.made
  simp only [deliveriesAt, hj, Op.deliveries_confirm, hshown, Option.bind_some, dialog_pending hmade]
  split <;> rfl

/-- Nothing is delivered but by the confirmation of an activation. -/
theorem exists_answers_of_deliveriesAt_ne_nil {p : Parties η τ} (h : DialogHost.current p = none) {ops : List Op}
    {j : Nat} (hne : deliveriesAt p ops j ≠ []) : ∃ i form, Answers p ops i form j := by
  cases hj : ops[j]? with
  | none => simp [deliveriesAt, hj] at hne
  | some o =>
    simp only [deliveriesAt, hj] at hne
    cases o with
    | activate wording form catalog => exact absurd (Op.deliveries_activate wording form catalog _) hne
    | dismiss => exact absurd rfl hne
    | confirm =>
      obtain ⟨hlt, -⟩ := List.getElem?_eq_some_iff.1 hj
      rw [Op.deliveries_confirm] at hne
      cases hc : DialogHost.current (run (ops.take j) p) with
      | none => simp [hc] at hne
      | some d =>
        obtain ⟨i, form, hd⟩ := (current_run_take h ops (Nat.le_of_lt hlt) d).1 hc
        exact ⟨i, form, answers_iff.2 ⟨hj, d, hd⟩⟩

/-- In a run from a place that shows nothing, with an account of the deliveries that changes nothing else: whatever
is delivered is delivered by a confirmation, while nothing is shown, and it is the submission of the form of the
last activation that succeeded, with neither a confirmation nor a dismissal since. A form with something checked
is then delivered, and no activation is behind more than one confirmation, whether or not it was accepted. -/
theorem delivers_at_most_once {p : Parties η τ} (h : DialogHost.current p = none) (ops : List Op) :
    ((run ops (Watched.mk p [])).state = run ops p ∧
      (run ops (Watched.mk p [])).deliveries = (List.range ops.length).flatMap (deliveriesAt p ops)) ∧
    (∀ j, ∀ delivery ∈ deliveriesAt p ops j, ∃ i form, Answers p ops i form j ∧ form.checkedValues ≠ [] ∧
      delivery = ⟨form.submission, none⟩ ∧ deliveriesAt p ops j = [delivery]) ∧
    (∀ i form j, Answers p ops i form j → form.checkedValues ≠ [] →
      deliveriesAt p ops j = [⟨form.submission, none⟩]) ∧
    ∀ i form form' j j', Answers p ops i form j → Answers p ops i form' j' → j = j' := by
  refine ⟨⟨run_watched ops _, deliveries_run ops _⟩, ?_, ?_, ?_⟩
  · intro j delivery hd
    obtain ⟨i, form, ha⟩ := exists_answers_of_deliveriesAt_ne_nil h (List.ne_nil_of_mem hd)
    have heq := deliveriesAt_of_answers h ha
    split at heq
    next => simp [heq] at hd
    next hne =>
      obtain rfl : delivery = ⟨form.submission, none⟩ := by simpa [heq] using hd
      exact ⟨i, form, ha, hne, rfl, heq⟩
  · intro i form j ha hne
    rw [deliveriesAt_of_answers h ha, if_neg hne]
  · intro i form form' j j' ha ha'
    exact ha.eq ha'

/-- A receiver that refuses whatever it gets. -/
inductive Closed where
  | closed

instance : SubmitTarget Closed where
  submit _ s := ⟨.error (.submitFailed "locked"), s, []⟩

def oneChecked : Form := ⟨"ao-tables", "delete", [⟨"A", false⟩, ⟨"B", true⟩]⟩

/-- An activation, one that fails for want of messages, and two confirmations. -/
def confirmedTwice : List Op :=
  [.activate .deletion oneChecked Message.Language.english.builtIn, .activate .deletion oneChecked .empty, .confirm,
    .confirm]

theorem confirmedTwice_answers :
    Answers (Parties.mk ModalSlot.empty Closed.closed) confirmedTwice 0 oneChecked 2 where
  activated := ⟨.deletion, _, .confirmationShown, rfl, by rfl⟩
  confirmed := rfl
  lt := by decide
  between k hi hk := by
    obtain rfl : k = 1 := by omega
    exact ⟨.deletion, oneChecked, .empty, .missingMessage "ao.admin.dialog.close", rfl, by rfl⟩

theorem confirmedTwice_delivers_once :
    let p := Parties.mk ModalSlot.empty Closed.closed
    (DialogHost.current p = none ∧ Answers p confirmedTwice 0 oneChecked 2 ∧ oneChecked.checkedValues ≠ []) ∧
      (run confirmedTwice (Watched.mk p [])).deliveries = [⟨⟨"ao-tables", "delete", ["B"]⟩, none⟩] := by
  intro p
  have hne : oneChecked.checkedValues ≠ [] := by decide
  obtain ⟨⟨-, haccount⟩, -, hdelivered, -⟩ :=
    delivers_at_most_once (p := p) (show DialogHost.current p = none from rfl) confirmedTwice
  refine ⟨⟨rfl, confirmedTwice_answers, hne⟩, haccount.trans ?_⟩
  have h0 : deliveriesAt p confirmedTwice 0 = [] := by rfl
  have h1 : deliveriesAt p confirmedTwice 1 = [] := by rfl
  have h2 := hdelivered 0 oneChecked 2 confirmedTwice_answers hne
  have h3 : deliveriesAt p confirmedTwice 3 = [] := by rfl
  rw [show List.range confirmedTwice.length = [0, 1, 2, 3] by decide]
  simp only [List.flatMap_cons, List.flatMap_nil, h0, h1, h2, h3]
  rfl

end TableDesk.Confirmation
