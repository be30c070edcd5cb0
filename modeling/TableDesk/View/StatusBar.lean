import TableDesk.Screen.Paragraph
import TableDesk.Session
import TableDesk.View.Palette

/-!
The status bar: the keys that do something now, and the status message behind them.
-/

namespace TableDesk.StatusBar

open Screen

variable {ρ : Type}

/-- The keys for the line under the cursor, and the messages that explain them. -/
def lineHints : Option Line → List (String × Message.Key)
  | some (.group _) => [("Enter", .hintExpand), ("Space", .hintCheck)]
  | some (.table _ _) => [("Space", .hintCheck)]
  | none => []

def hints (s : Session ρ) : List (String × Message.Key) :=
  if s.modal.isOpen then
    [("Tab/←→", .hintSwitch), ("Enter", .hintSelect), ("Esc", .dialogClose)]
  else
    [("↑↓", .hintMove)] ++ lineHints s.page.current ++
      [("d", .hintDelete), ("?", .hintHelp), ("q", .hintQuit)]

def separator : Span := .styled " │ " (.fg .darkGray)

def hintSpans (s : Session ρ) (keys : String) (explanation : Message.Key) : List Span :=
  [.styled keys (Style.fg .yellow).inBold, .raw " ",
    .styled (s.display explanation []) (.fg (.rgb 180 180 180))]

def statusSpans (s : Session ρ) : List Span :=
  match s.status with
  | none => []
  | some status => [separator, .styled status (.fg .yellow)]

def spans (s : Session ρ) : List Span :=
  [separator].intercalate ((hints s).map fun (keys, explanation) => hintSpans s keys explanation) ++
    statusSpans s

def draw (s : Session ρ) (p : Palette) (area : Rect) (canvas : Canvas) : Canvas :=
  (Paragraph.mk [.ofSpans (spans s)] p.statusStyle .left).draw area canvas

end TableDesk.StatusBar
