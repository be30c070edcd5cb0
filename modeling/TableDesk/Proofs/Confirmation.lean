import TableDesk.Confirmation.Recorded
import TableDesk.Proofs.First

/-!
What activating and confirming do, told by the dialog that is made and by the calls that are made of the
place of dialogs and of the receiver.
-/

namespace TableDesk

theorem exists_of_bind_eq_ok {ε α β : Type} {x : Except ε α} {f : α → Except ε β} {b : β}
    (h : x >>= f = .ok b) : ∃ a, x = .ok a ∧ f a = .ok b := by
  cases x with
  | error e => contradiction
  | ok a => exact ⟨a, rfl, h⟩

theorem Message.Catalog.exists_resolve {catalog : Catalog} {key : String} (h : catalog.contains key = true)
    (args : List String) : ∃ text, catalog.resolve key args = .ok text := by
  obtain ⟨template, ht⟩ := Option.isSome_iff_exists.1 h
  exact ⟨Text.formatMessage template args, by rw [resolve, ht]⟩

theorem Message.Catalog.exists_of_resolve_eq_ok {catalog : Catalog} {key text : String} {args : List String}
    (h : catalog.resolve key args = .ok text) :
    ∃ template, catalog.get? key = some template ∧ text = Text.formatMessage template args := by
  unfold resolve at h
  split at h
  next template ht => exact ⟨template, ht, (Except.ok.inj h).symm⟩
  · contradiction

namespace Confirmation

/-! ### Messages looked up one after the other -/

/-- A computation that looks up messages one after the other and does nothing else that can fail. -/
inductive LooksUp {α : Type} (catalog : Message.Catalog) : List String → Except Fault α → Prop where
  | done (a : α) : LooksUp catalog [] (.ok a)
  | look (key : String) (args : List String) {keys : List String} {rest : String → Except Fault α}
      (h : ∀ text, LooksUp catalog keys (rest text)) :
      LooksUp catalog (key :: keys) (catalog.resolve key args >>= rest)

namespace LooksUp

variable {α : Type} {catalog : Message.Catalog} {keys : List String} {x : Except Fault α}

/-- Where all messages are known, something is computed. -/
theorem exists_ok (h : LooksUp catalog keys x) (hall : ∀ key ∈ keys, catalog.contains key = true) :
    ∃ a, x = .ok a := by
  induction h with
  | done a => exact ⟨a, rfl⟩
  | look key args _ ih =>
    obtain ⟨hkey, hkeys⟩ := List.forall_mem_cons.1 hall
    obtain ⟨text, ht⟩ := Message.Catalog.exists_resolve hkey args
    rw [ht]
    exact ih text hkeys

/-- Otherwise the first message that is missing is reported. -/
theorem eq_error (h : LooksUp catalog keys x) {key : String}
    (hm : IsFirstWithout (catalog.contains · = true) keys key) : x = .error (.missingMessage key) := by
  obtain ⟨known, later, hkeys, hknown, hkey⟩ := hm
  induction h generalizing known with
  | done a => exact absurd hkeys (by simp)
  | look first args _ ih =>
    cases known with
    | nil =>
      obtain ⟨rfl, -⟩ := List.cons.inj hkeys
      have hnone : catalog.get? first = none := by simpa [Message.Catalog.contains] using hkey
      rw [Message.Catalog.resolve, hnone]
      rfl
    | cons _ known =>
      obtain ⟨rfl, rfl⟩ := List.cons.inj hkeys
      obtain ⟨hfirst, hknown⟩ := List.forall_mem_cons.1 hknown
      obtain ⟨text, ht⟩ := Message.Catalog.exists_resolve hfirst args
      rw [ht]
      exact ih text known rfl hknown

end LooksUp

/-! ### The dialog that is made -/

def Wording.keys (w : Wording) : List String :=
  [w.closeLabel, w.noSelectionTitle, w.noSelectionBody, w.confirmTitle, w.confirmBody, w.confirmLabel]

/-- The names of the messages in the dialog for a form, in the order in which they are looked up. -/
def Wording.needed (w : Wording) (form : Form) : List String :=
  w.closeLabel :: if form.checkedValues = [] then [w.noSelectionTitle, w.noSelectionBody]
    else [w.confirmTitle, w.confirmBody, w.confirmLabel]

theorem Wording.needed_subset_keys (w : Wording) (form : Form) : w.needed form ⊆ w.keys := by
  unfold needed keys
  split <;> simp

/-- A dialog that says in the words of a catalog that nothing is checked. -/
structure IsNotice (wording : Wording) (catalog : Message.Catalog) (d : Dialog) : Prop where
  title : catalog.text wording.noSelectionTitle = .ok d.title
  body : catalog.text wording.noSelectionBody = .ok d.body
  actions : ∃ close, catalog.text wording.closeLabel = .ok close ∧ d.actions = [⟨close, .dismiss⟩]
  pending : d.pending = none

/-- A dialog that asks in the words of a catalog whether to submit the checked items of a form. -/
structure IsQuestion (wording : Wording) (form : Form) (catalog : Message.Catalog) (d : Dialog) : Prop where
  title : catalog.text wording.confirmTitle = .ok d.title
  body : ∃ template, catalog.get? wording.confirmBody = some template ∧
    d.body = Text.formatMessage template [", ".intercalate ((form.items.filter (·.checked)).map (·.value))]
  actions : ∃ label close, catalog.text wording.confirmLabel = .ok label ∧
    catalog.text wording.closeLabel = .ok close ∧ d.actions = [⟨label, .confirm⟩, ⟨close, .dismiss⟩]
  pending : d.pending = some ⟨form.id, form.action, (form.items.filter (·.checked)).map (·.value)⟩

section Dialog

variable {wording : Wording} {form : Form} {catalog : Message.Catalog} {d : Dialog}

theorem dialog_of_nil (h : form.checkedValues = []) :
    dialog wording form catalog = do
      let close ← catalog.text wording.closeLabel
      let title ← catalog.text wording.noSelectionTitle
      let body ← catalog.text wording.noSelectionBody
      return .notice title body close := by
  have hempty : form.submission.values.isEmpty = true := List.isEmpty_iff.2 h
  simp only [dialog, hempty, if_true]

theorem dialog_of_ne_nil (h : form.checkedValues ≠ []) :
    dialog wording form catalog = do
      let close ← catalog.text wording.closeLabel
      let title ← catalog.text wording.confirmTitle
      let body ← catalog.resolve wording.confirmBody [form.submission.joined]
      let label ← catalog.text wording.confirmLabel
      return .confirmation title body label close form.submission := by
  have hempty : form.submission.values.isEmpty = false := List.isEmpty_eq_false_iff.2 h
  simp only [dialog, hempty, Bool.false_eq_true, if_false]

theorem looksUp_dialog (wording : Wording) (form : Form) (catalog : Message.Catalog) :
    LooksUp catalog (wording.needed form) (dialog wording form catalog) := by
  unfold Wording.needed
  by_cases h : form.checkedValues = []
  · rw [if_pos h, dialog_of_nil h]
    exact .look _ [] fun _ => .look _ [] fun _ => .look _ [] fun _ => .done _
  · rw [if_neg h, dialog_of_ne_nil h]
    exact .look _ [] fun _ => .look _ [] fun _ => .look _ _ fun _ => .look _ [] fun _ => .done _

/-- A dialog can be made where all its messages are known. -/
theorem exists_dialog (h : ∀ key ∈ wording.keys, catalog.contains key = true) (form : Form) :
    ∃ d, dialog wording form catalog = .ok d :=
  (looksUp_dialog wording form catalog).exists_ok fun key hk => h key (wording.needed_subset_keys form hk)

/-- With nothing checked the dialog that is made is the notice. -/
theorem isNotice_of_dialog (h : dialog wording form catalog = .ok d) (hnil : form.checkedValues = []) :
    IsNotice wording catalog d := by
  rw [dialog_of_nil hnil] at h
  obtain ⟨close, hc, h⟩ := exists_of_bind_eq_ok h
  obtain ⟨title, ht, h⟩ := exists_of_bind_eq_ok h
  obtain ⟨body, hb, h⟩ := exists_of_bind_eq_ok h
  obtain rfl : Dialog.notice title body close = d := Except.ok.inj h
  exact ⟨ht, hb, ⟨close, hc, rfl⟩, rfl⟩

/-- With something checked it is the question. -/
theorem isQuestion_of_dialog (h : dialog wording form catalog = .ok d) (hne : form.checkedValues ≠ []) :
    IsQuestion wording form catalog d := by
  rw [dialog_of_ne_nil hne] at h
  obtain ⟨close, hc, h⟩ := exists_of_bind_eq_ok h
  obtain ⟨title, ht, h⟩ := exists_of_bind_eq_ok h
  obtain ⟨body, hb, h⟩ := exists_of_bind_eq_ok h
  obtain ⟨label, hl, h⟩ := exists_of_bind_eq_ok h
  obtain rfl : Dialog.confirmation title body label close form.submission = d := Except.ok.inj h
  exact ⟨ht, Message.Catalog.exists_of_resolve_eq_ok hb, ⟨label, close, hl, hc, rfl⟩, rfl⟩

/-- What a dialog offers is decided by the form alone: its submission, if anything is checked. -/
theorem dialog_pending (h : dialog wording form catalog = .ok d) :
    d.pending = if form.checkedValues = [] then none else some form.submission := by
  split
  next hnil => exact (isNotice_of_dialog h hnil).pending
  next hne => exact (isQuestion_of_dialog h hne).pending

/-- A dialog that can be confirmed offers the submission of the form, which is not empty, and names it in
its body. -/
theorem dialog_offer {submission : Submission} (h : dialog wording form catalog = .ok d)
    (hp : d.pending = some submission) :
    submission = form.submission ∧ submission.values ≠ [] ∧
      catalog.resolve wording.confirmBody [submission.joined] = .ok d.body := by
  rw [dialog_pending h] at hp
  split at hp
  · contradiction
  next hne =>
    obtain rfl : form.submission = submission := Option.some.inj hp
    obtain ⟨template, ht, hb⟩ := (isQuestion_of_dialog h hne).body
    refine ⟨rfl, hne, ?_⟩
    rw [Message.Catalog.resolve, ht, hb]
    rfl

end Dialog

/-! ### Calls -/

variable {σ : Type} [DialogHost σ] [SubmitTarget σ]

def confirmCalls (s : σ) : List Call := (confirm (Recorded.mk s [])).state.calls

/-- An account of the calls changes nothing else. -/
theorem confirm_recorded (s : σ) (calls : List Call) :
    (confirm (Recorded.mk s calls)).answer = (confirm s).answer ∧
      (confirm (Recorded.mk s calls)).state.state = (confirm s).state ∧
      (confirm (Recorded.mk s calls)).log = (confirm s).log := by
  unfold confirm
  simp only [DialogHost.withdraw]
  split <;> exact ⟨rfl, rfl, rfl⟩

/-- The dialog is taken away first, and what it offered is submitted after that. -/
theorem confirmCalls_eq (s : σ) :
    confirmCalls s = .withdraw :: (((DialogHost.withdraw s).1.bind Dialog.pending).map Call.submit).toList := by
  unfold confirmCalls confirm
  simp only [DialogHost.withdraw]
  split
  next hn => rw [hn]; rfl
  next submission hs => rw [hs]; rfl

end Confirmation

end TableDesk
