import TableDesk.Input.Event
import TableDesk.Session.Request

/-!
Which request a key makes. While something lies over the page, its keys are the only ones that have
a meaning.
-/

namespace TableDesk.Input

/-- A key together with the modifiers that belong to it. -/
structure Binding where
  modifiers : Modifiers
  code : KeyCode
  deriving DecidableEq, Repr

namespace Binding

def plain (code : KeyCode) : Binding := ⟨.none, code⟩

def char (c : Char) : Binding := ⟨.none, .char c⟩

def alt (c : Char) : Binding := ⟨.altOnly, .char c⟩

def control (c : Char) : Binding := ⟨.controlOnly, .char c⟩

/-- Whether a report is about this key. Characters and the backward tab may come with the shift
key, which is what some terminals report. -/
def accepts (b : Binding) (key : KeyEvent) : Bool :=
  let modifiers :=
    match key.code with
    | .char _ | .backTab => key.modifiers.withoutShift
    | _ => key.modifiers
  modifiers = b.modifiers && key.code = b.code

end Binding

def pageBindings : List (Binding × Request) := [
  (.control 'c', .quit),
  (.char 'q', .quit),
  (.alt 'q', .quit),
  (.char '?', .showHelp),
  (.alt 'r', .refresh),
  (.alt 'l', .cycleLanguage),
  (.plain .escape, .clearStatus),
  (.plain .up, .page .selectPrevious),
  (.char 'k', .page .selectPrevious),
  (.plain .down, .page .selectNext),
  (.char 'j', .page .selectNext),
  (.plain .home, .page .selectFirst),
  (.plain .endKey, .page .selectLast),
  (.plain .enter, .page .activateRow),
  (.char ' ', .page .toggleCheck),
  (.alt 'd', .page .delete),
  (.plain .delete, .page .delete),
  (.char 'd', .page .delete)]

def modalBindings : List (Binding × Request) := [
  (.plain .escape, .modal .close),
  (.char 'n', .modal .close),
  (.control 'c', .modal .close),
  (.char 'y', .modal .confirm),
  (.plain .enter, .modal .submit),
  (.plain .tab, .modal .nextAction),
  (.plain .right, .modal .nextAction),
  (.plain .backTab, .modal .previousAction),
  (.plain .left, .modal .previousAction)]

/-- The request of the first binding that accepts a key. -/
def requestIn (bindings : List (Binding × Request)) (key : KeyEvent) : Request :=
  ((bindings.find? (·.1.accepts key)).map (·.2)).getD .nothing

/-- The request that a report makes, given whether something lies over the page. Only presses of
keys make requests. -/
def requestOf (modalOpen : Bool) : Event → Request
  | .key key =>
    if key.kind ≠ .press then .nothing
    else requestIn (if modalOpen then modalBindings else pageBindings) key
  | _ => .nothing

end TableDesk.Input
