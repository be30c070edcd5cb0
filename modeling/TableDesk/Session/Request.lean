/-!
What a user can ask of a session.
-/

namespace TableDesk

inductive PageRequest where
  | selectPrevious
  | selectNext
  | selectFirst
  | selectLast
  | activateRow
  | toggleCheck
  | delete
  deriving DecidableEq, Repr

inductive ModalRequest where
  | close
  | nextAction
  | previousAction
  | submit
  | confirm
  deriving DecidableEq, Repr

inductive Request where
  | quit
  | page (request : PageRequest)
  | modal (request : ModalRequest)
  | refresh
  | showHelp
  | cycleLanguage
  | clearStatus
  | nothing
  deriving DecidableEq, Repr

end TableDesk
