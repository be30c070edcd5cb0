import TableDesk.About
import TableDesk.View.DialogBox
import TableDesk.View.HelpBox
import TableDesk.View.StatusBar
import TableDesk.View.TableList

/-!
A session on the screen: the title bar, the framed list of tables, the status bar, and over them
what lies over the page. On a screen of less than three rows the bars give way to the list.
-/

namespace TableDesk

open Screen

/-- The parts of the screen from top to bottom. -/
structure DeskLayout where
  title : Rect
  list : Rect
  status : Rect
  deriving DecidableEq, Repr

def DeskLayout.of (screen : Rect) : DeskLayout :=
  let title := if screen.height ≥ 2 then 1 else 0
  let status := if screen.height ≥ 3 then 1 else 0
  { title := { screen with height := title }
    list := { screen with y := screen.y + title, height := screen.height - title - status }
    status := { screen with y := screen.bottom - status, height := status } }

/-- The parts of a screen lie below each other and fill it. -/
theorem DeskLayout.height_of (screen : Rect) :
    (of screen).title.height + (of screen).list.height + (of screen).status.height =
      screen.height := by
  simp only [of]
  split <;> split <;> omega

namespace Session

variable {ρ : Type}

def titleText (s : Session ρ) : String :=
  s!" {s.display .appTitle []} v{About.version}  [{s.language.displayName}]"

def drawTitle (s : Session ρ) (p : Palette) (area : Rect) (canvas : Canvas) : Canvas :=
  let lines := (Text.lines s.titleText.toList).map fun line => StyledLine.ofSpans [⟨line, .plain⟩]
  (Paragraph.mk lines p.titleStyle .left).draw area canvas

def listFrame (s : Session ρ) (p : Palette) : Frame where
  title := .raw s!" {s.display .tablesTitle []} "
  titleAlignment := .left
  titleStyle := (Style.fg p.text).inBold
  borderStyle := .fg p.border
  style := .plain

def drawModal (s : Session ρ) (screen : Rect) (canvas : Canvas) : Canvas :=
  match s.modal.active with
  | none => canvas
  | some (.dialog d focus) => DialogBox.draw d focus screen canvas
  | some .help => HelpBox.draw s screen canvas

/-- Draws a session on a canvas, unless a sum stops the program. -/
def drawOn? (overflow : Overflow) (s : Session ρ) (theme : Theme) (screen : Rect) (canvas : Canvas) :
    Option Canvas :=
  let p := theme.palette
  let layout := DeskLayout.of screen
  let canvas := s.drawTitle p layout.title canvas
  let canvas := (s.listFrame p).draw layout.list canvas
  (s.drawList overflow p layout.list.inner canvas).map fun canvas =>
    s.drawModal screen (StatusBar.draw s p layout.status canvas)

def draw? (overflow : Overflow) (s : Session ρ) (theme : Theme) (width height : Nat) : Option Canvas :=
  s.drawOn? overflow theme ⟨0, 0, width, height⟩ (.blank width height)

theorem isSome_draw?_wraps (s : Session ρ) (theme : Theme) (width height : Nat) :
    (s.draw? .wraps theme width height).isSome = true := by
  rw [draw?, drawOn?, Option.isSome_map, isSome_drawList_wraps]

/-- A session on a screen of a given size, as a release draws it. -/
def draw (s : Session ρ) (theme : Theme) (width height : Nat) : Canvas :=
  (s.draw? .wraps theme width height).get (s.isSome_draw?_wraps theme width height)

end Session

end TableDesk
