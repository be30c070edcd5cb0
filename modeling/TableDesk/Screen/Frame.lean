import TableDesk.Screen.Text

/-!
Frames: a border of one cell with a title in its upper side.
-/

namespace TableDesk.Screen

structure Frame where
  title : StyledLine
  titleAlignment : Alignment
  titleStyle : Style
  borderStyle : Style
  style : Style
  deriving DecidableEq, Repr

namespace Frame

/-- Draws the sides and then the corners. -/
def drawBorder (style : Style) (area : Rect) (canvas : Canvas) : Canvas :=
  let put (symbol : Char) := Cell.write [symbol] style
  let last := area.right - 1
  let lowest := area.bottom - 1
  let canvas := canvas.modifyRect { area with width := 1 } (put '│')
  let canvas := canvas.modifyRect { area with height := 1 } (put '─')
  let canvas := canvas.modifyRect { area with x := last, width := 1 } (put '│')
  let canvas := canvas.modifyRect { area with y := lowest, height := 1 } (put '─')
  let canvas := canvas.modify last lowest (put '┘')
  let canvas := canvas.modify last area.y (put '┐')
  let canvas := canvas.modify area.x lowest (put '└')
  canvas.modify area.x area.y (put '┌')

def titleArea (frame : Frame) (area : Rect) : Rect :=
  let room := area.width - 2
  let width := frame.title.width
  let shift :=
    match frame.titleAlignment with
    | .left => 0
    | .center => (room - width) / 2
  { x := area.x + 1 + shift, y := area.y, width := min width room, height := 1 }

def drawTitle (frame : Frame) (area : Rect) (canvas : Canvas) : Canvas :=
  if area.width ≤ 2 then canvas
  else
    let title := frame.titleArea area
    frame.title.draw title (canvas.restyle title frame.titleStyle)

def draw (frame : Frame) (area : Rect) (canvas : Canvas) : Canvas :=
  if area.isEmpty then canvas
  else
    frame.drawTitle area (drawBorder frame.borderStyle area (canvas.restyle area frame.style))

end Frame

end TableDesk.Screen
