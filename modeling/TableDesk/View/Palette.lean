import TableDesk.Screen.Style
import TableDesk.Settings

/-!
The colours of a theme and the styles that are made of them.
-/

namespace TableDesk

open Screen

structure Palette where
  text : Color
  border : Color
  bar : Color
  cursorBack : Color
  cursorText : Color
  unfolded : Color
  checked : Color
  muted : Color
  deriving DecidableEq, Repr

def Theme.palette : Theme → Palette
  | .dark => {
      text := .rgb 212 212 212
      border := .rgb 0 122 204
      bar := .rgb 0 122 204
      cursorBack := .rgb 38 79 120
      cursorText := .white
      unfolded := .rgb 86 156 214
      checked := .rgb 206 145 120
      muted := .rgb 128 128 128 }
  | .light => {
      text := .rgb 51 51 51
      border := .rgb 0 102 204
      bar := .rgb 0 102 204
      cursorBack := .rgb 204 232 255
      cursorText := .black
      unfolded := .rgb 0 92 197
      checked := .rgb 176 136 0
      muted := .rgb 128 128 128 }

namespace Palette

def cursorStyle (p : Palette) : Style := (Style.fg p.cursorText).on p.cursorBack |>.inBold

def unfoldedStyle (p : Palette) : Style := (Style.fg p.unfolded).inBold

def titleStyle (p : Palette) : Style := (Style.fg p.cursorText).on p.bar

def statusStyle (p : Palette) : Style := (Style.fg .white).on p.bar

end Palette

end TableDesk
