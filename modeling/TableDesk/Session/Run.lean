import TableDesk.Input.Bindings
import TableDesk.Session.Update

/-!
A session under the reports of a terminal. Every report is answered before the next one is looked
at; the session is over when the user quits or a report is answered by a failure.
-/

namespace TableDesk.Session

variable {ρ : Type} [TableStore ρ]

def handle (s : Session ρ) (event : Input.Event) : Step ρ :=
  s.update (Input.requestOf s.modal.isOpen event)

/-- Answers reports until the session is over or there are no more. -/
def run : List Input.Event → Session ρ → Step ρ
  | [], s => done s
  | event :: rest, s =>
    if s.quit then done s
    else
      match s.handle event with
      | ⟨.ok (), s, log⟩ => (run rest s).after log
      | ⟨.error e, s, log⟩ => ⟨.error e, s, log⟩

@[simp] theorem run_nil (s : Session ρ) : run [] s = done s := rfl

end TableDesk.Session
