import TableDesk.Proofs.Page.Reload
import TableDesk.Proofs.Session.Listing

/-!
A deletion that fails loses nothing. The failure comes after the dialog was taken away and before the tables are listed
anew, and the listing may fail too. Whatever comes of it, the store keeps its tables, the reason is told in the place
of the dialog, and what was checked stays checked as far as it is still listed.
-/

namespace TableDesk.Session

variable {ρ : Type} [TableStore ρ]

/-- What is checked on a page is kept on another one, as far as the names are in the list that it was to be made of.
A list that failed leaves the page. -/
structure KeepsChecks (p q : Page) (list : Except Fault (List Table)) : Prop where
  submitted : ∀ tables, list = .ok tables → ∀ name,
    name ∈ q.form.checkedValues ↔ name ∈ p.form.checkedValues ∧ name ∈ tables.map (·.name)
  shown : ∀ tables, list = .ok tables → ∀ name, p.names.count name = 1 →
    (q.isChecked name = true ↔ p.isChecked name = true ∧ name ∈ tables.map (·.name))
  unlisted : ∀ e, list = .error e → q = p

/-- Listing the tables of a store keeps the checks. -/
theorem keepsChecks_relisted {p : Page} (ha : p.Aligned) (store : ρ) :
    KeepsChecks p (relisted store p) (TableStore.tables store) where
  submitted := by
    intro tables ht name
    have hnames := mem_names_iff (p.setTables_contents tables) name
    rw [relisted, ht, ← hnames, Page.setTables_checkedValues, List.mem_filter, List.contains_iff_mem, and_comm]
  shown := by
    intro tables ht name hone
    have hnames := mem_names_iff (p.setTables_contents tables) name
    have hbefore : p.isChecked name = true ↔ name ∈ p.form.checkedValues :=
      ⟨Page.mem_checkedValues_of_isChecked, Page.isChecked_of_mem_checkedValues ha hone⟩
    rw [relisted, ht, hbefore, ← hnames]
    by_cases hn : name ∈ (p.setTables tables).names
    · simp [Page.isChecked_setTables hn, hn]
    · -- a name that is not listed has no item that could be checked
      have hunlisted : ¬ (p.setTables tables).isChecked name = true := by
        intro hc
        have hm := Page.mem_checkedValues_of_isChecked hc
        rw [Page.setTables_checkedValues] at hm
        exact hn (List.mem_of_mem_filter hm)
      simp [hunlisted, hn]
  unlisted := by
    intro e ht
    rw [relisted, ht]

/-- In a session that requests lead to, over a store that a failing deletion leaves with its tables, a deletion is
confirmed and fails for a reason that need not end the session. The request succeeds and the store lists what it
listed. In the place of the dialog there is a notice with the text of the failure, which can only be closed. Apart from
that nothing but the page changes: the names checked are those of the names checked before that are still listed, or
the page is as it was if the tables cannot be listed. -/
theorem failed_deletion_loses_nothing [SteadyStore ρ] {s : Session ρ} (h : Reachable RequestMove s) {r : Request}
    (hr : s.Confirms r) {submission : Submission} (ho : s.offered = some submission) {e : Fault}
    (ha : (TableDeletion.submit submission s.store s.disk).answer = .error e) (hf : e.isFatal = false) :
    let t := (s.update r).state
    (s.update r).answer = .ok () ∧
      TableStore.tables t.store = TableStore.tables s.store ∧
      (∃ d, t.modal.current = some d ∧ s.text .deleteFailedTitle = .ok d.title ∧ d.body = e.message ∧
        d.pending = none ∧ ∃ close, s.text .dialogClose = .ok close ∧ d.actions = [⟨close, .dismiss⟩]) ∧
      t = { s with page := t.page, modal := t.modal, store := t.store, disk := t.disk } ∧
      KeepsChecks s.page t.page (TableStore.tables s.store) := by
  intro t
  obtain ⟨title, close, htitle, hclose, hconfirm⟩ := confirm_complained h.complete ho ha hf
  have htables : TableStore.tables (s.delivered submission).store = TableStore.tables s.store :=
    TableDeletion.tables_submit_error ha
  have hu : s.update r = ⟨.ok (),
      { s.delivered submission with
        page := relisted (s.delivered submission).store s.page
        modal := ModalSlot.empty.showError title e.message close },
      s.deliveryLog submission ++ reloadLog (s.delivered submission).store "failed delete"⟩ :=
    (update_of_confirms hr ho).trans hconfirm
  have ht : t = { s.delivered submission with
      page := relisted (s.delivered submission).store s.page
      modal := ModalSlot.empty.showError title e.message close } := congrArg Outcome.state hu
  refine ⟨congrArg Outcome.answer hu, ?_, ?_, ?_, ?_⟩
  · rw [ht]
    exact htables
  · rw [ht]
    exact ⟨.notice title e.message close, rfl, htitle, rfl, rfl, close, hclose, rfl⟩
  · rw [ht]
    rfl
  · rw [ht, ← htables]
    exact keepsChecks_relisted h.page.aligned _

/-- Tables in memory that can be out of reach. -/
structure RemoteTables where
  copy : MemoryTables
  inReach : Bool

instance : TableStore RemoteTables where
  tables remote := if remote.inReach then TableStore.tables remote.copy else .error (.storage "out of reach")
  delete names remote disk :=
    if remote.inReach then
      match TableStore.delete names remote.copy disk with
      | (answer, copy, disk) => (answer, { remote with copy }, disk)
    else (.error (.storage "out of reach"), remote, disk)

instance : SteadyStore RemoteTables where
  tables_delete_error := by
    rintro names ⟨copy, inReach⟩ disk e h
    cases inReach with
    | true => exact (inferInstance : SteadyStore MemoryTables).tables_delete_error h
    | false => rfl

/-- Two tables, checked and asked to be deleted, which are out of reach by then. -/
def cutOffAsked : Session RemoteTables :=
  let tables := [⟨some "P", "A", some 3⟩, ⟨some "P", "B", none⟩]
  let s := fresh .english none Message.Language.english.builtIn tables (RemoteTables.mk ⟨tables⟩ true) .empty
  let asked := ((s.update (.page .toggleCheck)).state.update (.page .delete)).state
  { asked with store := ⟨⟨tables⟩, false⟩ }

theorem cutOffAsked_reachable : Reachable RequestMove cutOffAsked :=
  .step (.step (.step (.fresh RequestMove .english rfl .empty) (.answer _ _)) (.answer _ _)) (.elapse _ _ _ _)

/-- Where one of two checked tables is gone, the other one stays checked. Where both are out of reach, both stay. -/
theorem goneAsked_and_cutOffAsked_lose_nothing :
    (Reachable RequestMove goneAsked ∧ (goneAsked.update (.modal .confirm)).answer = .ok () ∧
      ∀ name, name ∈ (goneAsked.update (.modal .confirm)).state.page.form.checkedValues ↔
        name ∈ ["A", "B"] ∧ name ∈ ["A"]) ∧
      Reachable RequestMove cutOffAsked ∧ (cutOffAsked.update (.modal .confirm)).answer = .ok () ∧
        (cutOffAsked.update (.modal .confirm)).state.page = cutOffAsked.page := by
  let submission : Submission := ⟨"ao-tables", "delete", ["A", "B"]⟩
  have hgoneOffers : goneAsked.offered = some submission := by rfl
  have hgoneFails : (TableDeletion.submit submission goneAsked.store goneAsked.disk).answer =
      .error (.tableNotFound "B") := by rfl
  have hcutOffOffers : cutOffAsked.offered = some submission := by rfl
  have hcutOffFails : (TableDeletion.submit submission cutOffAsked.store cutOffAsked.disk).answer =
      .error (.storage "out of reach") := by rfl
  have hgone := failed_deletion_loses_nothing goneAsked_reachable (.inl rfl : goneAsked.Confirms (.modal .confirm))
    hgoneOffers hgoneFails rfl
  have hcutOff := failed_deletion_loses_nothing cutOffAsked_reachable
    (.inl rfl : cutOffAsked.Confirms (.modal .confirm)) hcutOffOffers hcutOffFails rfl
  have hchecked : goneAsked.page.form.checkedValues = ["A", "B"] := by rfl
  refine ⟨⟨goneAsked_reachable, hgone.1, fun name => ?_⟩, cutOffAsked_reachable, hcutOff.1,
    hcutOff.2.2.2.2.unlisted (.storage "out of reach") rfl⟩
  rw [← hchecked]
  exact hgone.2.2.2.2.submitted [⟨some "P", "A", some 3⟩] rfl name

end TableDesk.Session
