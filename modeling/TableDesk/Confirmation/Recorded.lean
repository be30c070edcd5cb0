import TableDesk.Confirmation

/-!
A place of dialogs and receiver of submissions that keeps an account of what is asked of it.
-/

namespace TableDesk.Confirmation

/-- A request to a place of dialogs or to a receiver of submissions. -/
inductive Call where
  | present (dialog : Dialog)
  | withdraw
  | submit (submission : Submission)
  deriving DecidableEq, Repr

/-- A state with the requests made so far, in order. -/
structure Recorded (σ : Type) where
  state : σ
  calls : List Call

variable {σ : Type}

instance [DialogHost σ] : DialogHost (Recorded σ) where
  current r := DialogHost.current r.state
  present d r := ⟨DialogHost.present d r.state, r.calls ++ [.present d]⟩
  withdraw r :=
    let (d, s) := DialogHost.withdraw r.state
    (d, ⟨s, r.calls ++ [.withdraw]⟩)

instance [SubmitTarget σ] : SubmitTarget (Recorded σ) where
  submit submission r :=
    let o := SubmitTarget.submit submission r.state
    ⟨o.answer, ⟨o.state, r.calls ++ [.submit submission]⟩, o.log⟩

instance [DialogHost σ] [LawfulDialogHost σ] : LawfulDialogHost (Recorded σ) where
  current_present d r := LawfulDialogHost.current_present d r.state
  withdraw_fst r := LawfulDialogHost.withdraw_fst r.state
  current_withdraw r := LawfulDialogHost.current_withdraw r.state

end TableDesk.Confirmation
