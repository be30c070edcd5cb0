import TableDesk.Message.Localization
import TableDesk.Proofs.Confirmation
import TableDesk.Proofs.Modal

/-!
An activation shows one dialog or does nothing. Which messages it needs depends on whether something is checked. Where
one of them is missing the place of dialogs is not even asked for anything, and the first one missing is reported.
Otherwise a dialog that is shown is taken away and the new one is shown, in the words of the catalog.
-/

namespace TableDesk.Confirmation

/-- The calls that showing a dialog makes of its place. -/
def showCalls (shown : Option Dialog) (d : Dialog) : List Call :=
  (if shown.isSome then [.withdraw] else []) ++ [.present d]

section Activate

variable {σ : Type} [DialogHost σ] {wording : Wording} {form : Form} {catalog : Message.Catalog}

theorem replace_recorded (d : Dialog) (s : σ) (calls : List Call) :
    replace d (Recorded.mk s calls) = ⟨replace d s, calls ++ showCalls (DialogHost.current s) d⟩ := by
  unfold replace showCalls
  simp only [DialogHost.current]
  split
  · simp only [DialogHost.withdraw, DialogHost.present, List.append_assoc]
  · simp only [DialogHost.present, List.nil_append]

theorem current_replace [LawfulDialogHost σ] (d : Dialog) (s : σ) : DialogHost.current (replace d s) = some d :=
  LawfulDialogHost.current_present d _

theorem activate_of_ok {d : Dialog} (h : dialog wording form catalog = .ok d) (s : σ) :
    activate wording form catalog s = ⟨.ok (phaseOf d), replace d s, dialogLog wording form catalog⟩ := by
  unfold activate
  rw [h]

theorem activate_of_error {e : Fault} (h : dialog wording form catalog = .error e) (s : σ) :
    activate wording form catalog s = ⟨.error e, s, dialogLog wording form catalog⟩ := by
  unfold activate
  rw [h]

/-- What an activation shows, and in which phase: with nothing checked the notice, otherwise the question. -/
def Shows (wording : Wording) (form : Form) (catalog : Message.Catalog) (phase : Phase) (d : Dialog) : Prop :=
  if form.checkedValues = [] then phase = .noSelectionShown ∧ IsNotice wording catalog d
  else phase = .confirmationShown ∧ IsQuestion wording form catalog d

theorem shows_of_dialog {d : Dialog} (h : dialog wording form catalog = .ok d) :
    Shows wording form catalog (phaseOf d) d := by
  unfold Shows phaseOf
  rw [d.hasConfirm_eq, dialog_pending h]
  split
  next hnil => exact ⟨rfl, isNotice_of_dialog h hnil⟩
  next hne => exact ⟨rfl, isQuestion_of_dialog h hne⟩

/-- With all its messages an activation shows one dialog. -/
theorem exists_activate_eq_ok (h : ∀ key ∈ wording.needed form, catalog.contains key = true) (s : σ) :
    ∃ d phase log, Shows wording form catalog phase d ∧
      activate wording form catalog s = ⟨.ok phase, replace d s, log⟩ ∧
      activate wording form catalog (Recorded.mk s []) =
        ⟨.ok phase, ⟨replace d s, showCalls (DialogHost.current s) d⟩, log⟩ := by
  obtain ⟨d, hd⟩ := (looksUp_dialog wording form catalog).exists_ok h
  have hcalls := activate_of_ok hd (Recorded.mk s [])
  rw [replace_recorded, List.nil_append] at hcalls
  exact ⟨d, phaseOf d, dialogLog wording form catalog, shows_of_dialog hd, activate_of_ok hd s, hcalls⟩

end Activate

/-- An activation succeeds exactly if the catalog has all the messages that the dialog for the form needs. If it does
not, the first message missing is reported, nothing is asked of the place of dialogs, and it stays as it was. If it
does, the dialog shown before is taken away, if there is one, and one dialog is shown: with nothing checked the notice,
else the question about the values checked, in their order. -/
theorem activation_is_atomic {σ : Type} [DialogHost σ] [LawfulDialogHost σ] (wording : Wording) (form : Form)
    (catalog : Message.Catalog) (s : σ) :
    let o := activate wording form catalog s
    let watched := activate wording form catalog (Recorded.mk s [])
    (watched.answer = o.answer ∧ watched.state.state = o.state) ∧
      ((∃ phase, o.answer = .ok phase) ↔ ∀ key ∈ wording.needed form, catalog.contains key = true) ∧
      (∀ e, o.answer = .error e → o.state = s ∧ watched.state.calls = [] ∧
        ∃ key, IsFirstWithout (catalog.contains · = true) (wording.needed form) key ∧ e = .missingMessage key) ∧
      ∀ phase, o.answer = .ok phase → ∃ d, Shows wording form catalog phase d ∧
        watched.state.calls = showCalls (DialogHost.current s) d ∧ DialogHost.current o.state = some d := by
  intro o watched
  rcases forall_or_exists_isFirstWithout (catalog.contains · = true) (wording.needed form) with hall | ⟨key, hkey⟩
  · obtain ⟨d, phase, log, hshows, ho, hwatched⟩ := exists_activate_eq_ok hall s
    rw [show o = _ from ho, show watched = _ from hwatched]
    refine ⟨⟨rfl, rfl⟩, ⟨fun _ => hall, fun _ => ⟨phase, rfl⟩⟩, ?_, ?_⟩
    · intro e he
      cases he
    · intro other hother
      obtain rfl : phase = other := Except.ok.inj hother
      exact ⟨d, hshows, rfl, current_replace d s⟩
  · have he := (looksUp_dialog wording form catalog).eq_error hkey
    rw [show o = _ from activate_of_error he s, show watched = _ from activate_of_error he _]
    refine ⟨⟨rfl, rfl⟩, ⟨?_, fun hall => absurd hall hkey.not_forall⟩, ?_, ?_⟩
    · rintro ⟨phase, hphase⟩
      cases hphase
    · intro e hfault
      obtain rfl : .missingMessage key = e := Except.error.inj hfault
      exact ⟨rfl, rfl, key, hkey, rfl⟩
    · intro phase hphase
      cases hphase

def twoChecked : Form := ⟨"ao-tables", "delete", [⟨"A", true⟩, ⟨"B", false⟩, ⟨"C", true⟩]⟩

/-- A catalog with the closing label and the body of the question only. -/
def bodyOnly : Message.Catalog :=
  .ofEntries [⟨Wording.deletion.closeLabel, "Close"⟩, ⟨Wording.deletion.confirmBody, "Delete \x7b0\x7d?"⟩]

/-- Over a dialog that is shown, the built-in catalog leads to a question, and a catalog without its title to the
report of the title. -/
theorem twoChecked_activation :
    let s := ModalSlot.empty.present (.notice "Error" "Nothing there" "Close")
    (∃ d, (activate .deletion twoChecked Message.Language.english.builtIn (Recorded.mk s [])).state.calls =
        [.withdraw, .present d] ∧ IsQuestion .deletion twoChecked Message.Language.english.builtIn d) ∧
      (activate .deletion twoChecked bodyOnly s).answer = .error (.missingMessage Wording.deletion.confirmTitle) ∧
      (activate .deletion twoChecked bodyOnly s).state = s := by
  intro s
  constructor
  · obtain ⟨-, hok, -, hshown⟩ := activation_is_atomic .deletion twoChecked Message.Language.english.builtIn s
    obtain ⟨phase, hphase⟩ := hok.2 (by decide +kernel)
    obtain ⟨d, hd, hcalls, -⟩ := hshown phase hphase
    exact ⟨d, hcalls, hd.2⟩
  · obtain ⟨-, -, hfails, -⟩ := activation_is_atomic .deletion twoChecked bodyOnly s
    have hanswer : (activate .deletion twoChecked bodyOnly s).answer =
        .error (.missingMessage Wording.deletion.confirmTitle) := by rfl
    exact ⟨hanswer, (hfails _ hanswer).1⟩

end TableDesk.Confirmation
