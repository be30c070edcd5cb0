import TableDesk.Log

/-!
What an operation gives back. The state and the log records are there also when the answer is a
failure.
-/

namespace TableDesk

/-- The answer of an operation, the state it leaves, and the records it wrote, in order. -/
structure Outcome (ε σ α : Type) where
  answer : Except ε α
  state : σ
  log : List Log.Record

/-- The same outcome after some earlier records. -/
def Outcome.after {ε σ α : Type} (earlier : List Log.Record) (o : Outcome ε σ α) : Outcome ε σ α :=
  { o with log := earlier ++ o.log }

end TableDesk
