import TableDesk.Dialog
import TableDesk.Screen.Frame
import TableDesk.Screen.Paragraph
import TableDesk.Text.Wrap

/-!
Dialogs on the screen. The box of a dialog is as wide as its title, its buttons or its body needs,
within bounds, and as high as its body needs; it never leaves the screen. A body that does not fit
is cut, so that the buttons stay visible.
-/

namespace TableDesk

open Screen

namespace DialogBox

def textWidth (text : String) : Nat := Text.width text.toList

def buttonLabel (label : String) : String := s!" {label} "

def buttonGap : String := "    "

def buttonsWidth (actions : List Action) : Nat :=
  actions.foldr (fun action columns => textWidth (buttonLabel action.label) + 4 + columns) 0

def minWidth : Nat := 30

def maxWidth : Nat := 70

/-- The columns of a box that its content cannot use: the frame and two columns on either side. -/
def padding : Nat := 6

/-- The rows of a box that its body cannot use: the frame, a blank row on either side of the body,
and the buttons. -/
def framing : Nat := 5

/-- The columns that a dialog would like to have. -/
def contentWidth (d : Dialog) : Nat :=
  max (max (textWidth d.title) (buttonsWidth d.actions)) (min (textWidth d.body) (maxWidth - padding))

def width (d : Dialog) (screenWidth : Nat) : Nat :=
  min (max minWidth (min (contentWidth d + padding) maxWidth)) screenWidth

def bodyWidth (d : Dialog) (screenWidth : Nat) : Nat := width d screenWidth - padding

/-- The most lines that the body of a dialog may take. -/
def bodyHeight (screenHeight : Nat) : Nat := max (screenHeight - framing) 1

/-- The lines of the body that are drawn. -/
def body (d : Dialog) (screen : Rect) : List (List Char) :=
  let width := bodyWidth d screen.width
  Text.fit Text.charColumns (bodyHeight screen.height) width
    (Text.wrap Text.charColumns Text.width width d.body.toList)

def height (d : Dialog) (screen : Rect) : Nat := min ((body d screen).length + framing) Rect.limit

def area (d : Dialog) (screen : Rect) : Rect :=
  .centered (width d screen.width) (height d screen) screen

theorem area_inside (d : Dialog) (screen : Rect) : (area d screen).Inside screen :=
  Rect.centered_inside _ _ _

/-- The part of a box above the buttons. -/
def bodyArea (inner : Rect) : Rect := { inner with height := inner.height - 1 }

/-- The last row of a box, which holds the buttons. -/
def buttonArea (inner : Rect) : Rect := { inner with y := inner.bottom - 1, height := 1 }

/-- The frame of a dialog, red if something can be confirmed. -/
def frame (d : Dialog) : Frame where
  title := .raw s!" {d.title} "
  titleAlignment := .center
  titleStyle := .plain
  borderStyle := .fg (if d.hasConfirm then .red else .cyan)
  style := Style.plain.on .black

def bodyLine (line : List Char) : StyledLine :=
  .styled (String.ofList (' ' :: ' ' :: line)) (.fg .white)

/-- The body below a blank line. -/
def bodyText (lines : List (List Char)) : Paragraph where
  lines := .raw "" :: lines.map bodyLine
  style := .plain
  alignment := .left

def accent : ActionKind → Color
  | .confirm => .red
  | .dismiss => .white

/-- The style of a button. The one in focus is drawn in reverse. -/
def buttonStyle (focused : Bool) (kind : ActionKind) : Style :=
  if focused then (Style.fg .black).on (accent kind) else .fg (accent kind)

def buttonSpans (actions : List Action) (focus : Nat) : List Span :=
  actions.zipIdx.flatMap fun (action, position) =>
    [.raw buttonGap,
      .styled (buttonLabel action.label) (buttonStyle (position == focus) action.kind)]

def buttonRow (actions : List Action) (focus : Nat) : Paragraph where
  lines := [.ofSpans (buttonSpans actions focus)]
  style := .plain
  alignment := .center

def draw (d : Dialog) (focus : Nat) (screen : Rect) (canvas : Canvas) : Canvas :=
  let box := area d screen
  let canvas := (frame d).draw box (canvas.clear box)
  let inner := box.inner
  if inner.height = 0 then canvas
  else
    (buttonRow d.actions focus).draw (buttonArea inner)
      ((bodyText (body d screen)).draw (bodyArea inner) canvas)

end DialogBox

end TableDesk
