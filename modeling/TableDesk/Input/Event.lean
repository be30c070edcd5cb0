/-!
What a terminal reports: keys with their modifiers, and events that carry no key.
-/

namespace TableDesk.Input

/-- A key. A key without a meaning for the program is known by its name only. -/
inductive KeyCode where
  | char (c : Char)
  | enter
  | escape
  | tab
  | backTab
  | up
  | down
  | left
  | right
  | home
  | endKey
  | delete
  | other (name : String)
  deriving DecidableEq, Repr

structure Modifiers where
  shift : Bool
  control : Bool
  alt : Bool
  super : Bool
  hyper : Bool
  «meta» : Bool
  deriving DecidableEq, Repr

namespace Modifiers

def none : Modifiers := ⟨false, false, false, false, false, false⟩

def controlOnly : Modifiers := { none with control := true }

def altOnly : Modifiers := { none with alt := true }

def withoutShift (m : Modifiers) : Modifiers := { m with shift := false }

end Modifiers

inductive KeyKind where
  | press
  | «repeat»
  | release
  deriving DecidableEq, Repr

structure KeyEvent where
  code : KeyCode
  modifiers : Modifiers
  kind : KeyKind
  deriving DecidableEq, Repr

inductive Event where
  | key (event : KeyEvent)
  | resize (width height : Nat)
  | focusGained
  | focusLost
  | paste (text : String)
  | mouse
  deriving DecidableEq, Repr

end TableDesk.Input
