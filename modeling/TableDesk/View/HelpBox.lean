import TableDesk.Screen.Frame
import TableDesk.Screen.Paragraph
import TableDesk.Session

/-!
The help on the screen: a box that lists the keys and what they do.
-/

namespace TableDesk.HelpBox

open Screen

/-- The keys that are explained, and the messages that explain them. -/
def entries : List (String × Message.Key) := [
  ("↑↓/jk", .helpNavigate),
  ("Enter", .helpExpand),
  ("Space", .helpCheck),
  ("d/Del", .helpDelete),
  ("Alt+r", .helpReload),
  ("Alt+l", .helpLanguage),
  ("q", .helpQuit)]

def area (screen : Rect) : Rect := .centered 55 (entries.length + 6) screen

/-- A text filled up with blanks to a number of characters. -/
def padTo (length : Nat) (text : String) : String :=
  text ++ String.ofList (List.replicate (length - text.length) ' ')

variable {ρ : Type}

def frame (s : Session ρ) : Frame where
  title := .raw s!" {s.display .helpTitle []} "
  titleAlignment := .center
  titleStyle := .plain
  borderStyle := .fg .cyan
  style := Style.plain.on .black

def entryLine (s : Session ρ) (keys : String) (explanation : Message.Key) : StyledLine :=
  .ofSpans [.styled s!"  {padTo 8 keys}" (.fg .yellow),
    .styled (s.display explanation []) (.fg .white)]

def text (s : Session ρ) : Paragraph where
  lines := [.raw ""] ++ entries.map (fun (keys, explanation) => entryLine s keys explanation) ++
    [.raw "", .styled s!"  Esc  {s.display .dialogClose []}" (Style.fg .darkGray).inItalic]
  style := .plain
  alignment := .left

def draw (s : Session ρ) (screen : Rect) (canvas : Canvas) : Canvas :=
  let box := area screen
  (text s).draw box.inner ((frame s).draw box (canvas.clear box))

end TableDesk.HelpBox
