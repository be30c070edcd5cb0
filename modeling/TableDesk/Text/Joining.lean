import TableDesk.Text.Ranges

/-!
Letters that join a letter before them, so that both take less room than the two side by side.
-/

namespace TableDesk.Text

/-- A letter, or the later part of a cluster of letters, that the character before it may join. -/
inductive Joint where
  | alef
  | lamed
  | ya
  | vowelYa
  | tifinagh
  | boundTifinagh
  | tone
  | orkhonI
  | stackable
  deriving DecidableEq, Repr

def isAlef (c : Char) : Bool :=
  Ranges.has [(0x622, 0x623), (0x625, 0x625), (0x627, 0x627), (0x671, 0x673), (0x675, 0x675),
    (0x773, 0x774), (0x870, 0x882)] c

def isLam (c : Char) : Bool :=
  Ranges.has [(0x644, 0x644), (0x6B5, 0x6B8), (0x76A, 0x76A), (0x8A6, 0x8A6), (0x8C7, 0x8C7)] c

/-- Khmer letters that may stand below another one. -/
def isStackable (c : Char) : Bool :=
  Ranges.has [(0x1780, 0x1782), (0x1784, 0x1787), (0x1789, 0x178C), (0x178E, 0x1793),
    (0x1795, 0x1798), (0x179B, 0x179D), (0x17A0, 0x17A0), (0x17A2, 0x17A2), (0x17A7, 0x17A7),
    (0x17AB, 0x17AC), (0x17AF, 0x17AF)] c

def isTifinagh (c : Char) : Bool :=
  Ranges.has [(0x2D31, 0x2D65), (0x2D6F, 0x2D6F)] c

/-- Marks that show nothing and do not keep two letters from joining. -/
def isJoinMark (c : Char) : Bool :=
  Ranges.has [(0x34F, 0x34F), (0x17B4, 0x17B5), (0x180B, 0x180D), (0x180F, 0x180F),
    (0x200D, 0x200D), (0xFE00, 0xFE0F), (0xE0100, 0xE01EF)] c

def Joint.of? (c : Char) : Option Joint :=
  if isAlef c then some .alef
  else if isStackable c then some .stackable
  else if isTifinagh c then some .tifinagh
  else if c = '\u05DC' then some .lamed
  else if c = '\u1A10' then some .ya
  else if c = '\uA4FC' || c = '\uA4FD' then some .tone
  else if c.toNat = 0x10C03 then some .orkhonI
  else none

end TableDesk.Text
