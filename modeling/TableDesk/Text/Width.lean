import TableDesk.Text.Emoji
import TableDesk.Text.Joining
import TableDesk.Text.Wide
import TableDesk.Text.ZeroWidth

/-!
How many columns a character takes by itself, and how many a whole text takes. The two differ where
characters join: emoji sequences, ligatures and line ends are counted as they are shown. The width
of a text is found from its end, since what a character takes depends on what follows it.
-/

namespace TableDesk.Text

def isControl (c : Char) : Bool :=
  c.toNat < 0x20 || (0x7F ≤ c.toNat && c.toNat < 0xA0)

def isZeroWidth (c : Char) : Bool :=
  0xAD ≤ c.toNat && zeroWidthRanges.has c

/-- The columns of a character that is no control character. -/
def columns (c : Char) : Nat :=
  if c.toNat < 0xAD then 1
  else if c = '\u17D8' then 3
  else if wideRanges.has c then 2
  else if zeroWidthRanges.has c then 0
  else 1

def charWidth (c : Char) : Option Nat :=
  if isControl c then none else some (columns c)

/-- The columns of a character by itself; one without a width takes none. -/
def charColumns (c : Char) : Nat := (charWidth c).getD 0

/-! ### What follows a character -/

/-- The start of what follows a character. The joined forms stand after a joiner: an emoji, a
keycap, one regional indicator, an even or an odd number of them from two on, and the tags of a
flag, which end with a cancel tag and are counted from there. -/
inductive Follower where
  | plain
  | lineFeed
  | emoji
  | skinTone
  | indicator
  | indicators
  | joinedEmoji
  | joinedKeycap
  | joinedIndicator
  | joinedEven
  | joinedOdd
  | tagEnd
  | tagDigits (count : Nat)
  | tagLetters (count : Nat)
  | letter (joint : Joint) (joined : Bool)
  deriving DecidableEq, Repr

/-- What follows a character, as far as it bears on the character's width: a selector of the emoji
or of the text style, and what stands behind the selectors. -/
structure Ahead where
  follower : Follower
  emojiStyle : Bool
  textStyle : Bool
  deriving DecidableEq, Repr

def Ahead.of (follower : Follower) : Ahead :=
  { follower, emojiStyle := false, textStyle := false }

def Ahead.plain : Ahead := .of .plain

/-- Behind a selector, only a letter can still be joined. -/
def Follower.behindSelector : Follower → Follower
  | .letter joint joined => .letter joint joined
  | _ => .plain

/-- Puts a selector of the emoji style in front. It keeps a joined emoji. -/
def Ahead.selectEmoji (ahead : Ahead) : Ahead :=
  match ahead.follower with
  | .letter _ _ => { ahead with emojiStyle := true }
  | .joinedEmoji | .joinedKeycap => { ahead with emojiStyle := true }
  | _ => { Ahead.plain with emojiStyle := true }

def Ahead.selectText (ahead : Ahead) : Ahead :=
  { ahead with follower := ahead.follower.behindSelector, textStyle := true }

/-- Takes a selector of the emoji style away that the character before it has no use for. -/
def Ahead.dropEmojiStyle (ahead : Ahead) : Ahead :=
  if ahead.emojiStyle then
    { ahead with follower := ahead.follower.behindSelector, emojiStyle := false }
  else ahead

/-- What a character is to the character before it. -/
def Follower.ofChar (c : Char) : Follower :=
  if isSkinTone c then .skinTone
  else if isIndicator c then .indicator
  else if emojiRanges.has c then .emoji
  else
    match Joint.of? c with
    | some joint => .letter joint false
    | none => .plain

/-! ### The columns that a character adds -/

/-- The width that a character adds where its surroundings do not change it. -/
def alone (c : Char) : Int × Ahead :=
  (columns c, .of (.ofChar c))

def beforeLetter (c : Char) (joint : Joint) (joined : Bool) : Int × Ahead :=
  if joint = .alef then
    if isLam c then (0, .plain)
    else if isZeroWidth c && !separatorRanges.has c then (0, .of (.letter .alef joined))
    else alone c
  else if c = '\u200D' then (0, .of (.letter joint true))
  else if isJoinMark c then (0, .of (.letter joint joined))
  else
    match joint, joined with
    | .lamed, true => if c = '\u05D0' then (0, .plain) else alone c
    | .stackable, _ => if c = '\u17D2' then (-1, .plain) else alone c
    | .ya, true => if c = '\u1A17' then (0, .of (.letter .vowelYa true)) else alone c
    | .vowelYa, _ => if c = '\u1A15' then (0, .plain) else alone c
    | .tifinagh, _ =>
      if c = '\u2D7F' then (1, .of (.letter .boundTifinagh false))
      else if joined && isTifinagh c then (0, .plain) else alone c
    | .boundTifinagh, _ => if isTifinagh c then (-1, .plain) else alone c
    | .tone, _ => if Ranges.has [(0xA4F8, 0xA4FB)] c then (0, .plain) else alone c
    | .orkhonI, true => if c.toNat = 0x10C32 then (0, .plain) else alone c
    | _, _ => alone c

def beforeJoinedEmoji (c : Char) : Int × Ahead :=
  if c = '\u20E3' then (0, .of .joinedKeycap)
  else if isIndicator c then (1, .of .joinedIndicator)
  else if isSkinTone c then (0, .of .skinTone)
  else if c.toNat = 0xE007F then (0, .of .tagEnd)
  else if emojiRanges.has c then (0, .of .emoji)
  else alone c

/-- What a character adds before the tags of a flag, of which there are three digits, or three to
six letters. -/
def beforeTags (c : Char) (follower : Follower) : Int × Ahead :=
  match follower with
  | .tagEnd =>
    if isTagLetter c then (0, .of (.tagLetters 1))
    else if isTagDigit c then (0, .of (.tagDigits 1))
    else alone c
  | .tagLetters count =>
    if isTagLetter c && count < 6 then (0, .of (.tagLetters (count + 1)))
    else if isTagDigit c && count < 5 then (0, .of (.tagDigits 1))
    else if c.toNat = 0x1F3F4 && 3 ≤ count then (0, .of .emoji)
    else alone c
  | .tagDigits count =>
    if isTagDigit c && count < 3 then (0, .of (.tagDigits (count + 1)))
    else if c.toNat = 0x1F3F4 && 3 ≤ count then (0, .of .emoji)
    else alone c
  | _ => alone c

/-- What a character above U+00A0 that is no selector adds before a follower. -/
def Follower.add (follower : Follower) (c : Char) : Int × Ahead :=
  match follower with
  | .plain | .lineFeed | .joinedKeycap => alone c
  | .emoji => if c = '\u200D' then (0, .of .joinedEmoji) else alone c
  | .skinTone =>
    if skinToneBases.has c then (0, .of .emoji)
    else if c = '\u200D' then (0, .of .joinedEmoji) else alone c
  | .indicator => if isIndicator c then (1, .of .indicators) else alone c
  | .indicators =>
    if isIndicator c then (1, .of .indicators)
    else if c = '\u200D' then (0, .of .joinedEmoji) else alone c
  | .joinedEmoji => beforeJoinedEmoji c
  | .joinedIndicator => if isIndicator c then (-1, .of .joinedEven) else alone c
  | .joinedEven =>
    if isIndicator c then (3, .of .joinedOdd)
    else if c = '\u200D' then (0, .of .joinedEmoji) else alone c
  | .joinedOdd =>
    if isIndicator c then (-1, .of .joinedEven)
    else if c = '\u200D' then (0, .of .joinedEmoji) else alone c
  | .tagEnd | .tagDigits _ | .tagLetters _ => beforeTags c follower
  | .letter joint joined => beforeLetter c joint joined

/-- The columns that a character adds to what follows it, and what it is to the character before. -/
def Ahead.add (ahead : Ahead) (c : Char) : Int × Ahead :=
  if ahead.emojiStyle && emojiStyleRanges.has c then
    (if ahead.follower = .joinedEmoji ∨ ahead.follower = .joinedKeycap then 0 else 2, .of .emoji)
  else
    let ahead := ahead.dropEmojiStyle
    if c = '\n' then (1, .of .lineFeed)
    else if c.toNat ≤ 0xA0 then
      (if c = '\r' ∧ ahead.follower = .lineFeed then 0 else 1, .plain)
    else if c = '\uFE0F' then (0, ahead.selectEmoji)
    else if c = '\uFE0E' then (0, ahead.selectText)
    else if ahead.textStyle && textStyleRanges.has c then (1, .plain)
    else ahead.follower.add c

/-- The columns of a text together with what it is to a character before it. -/
def measure (text : List Char) : Int × Ahead :=
  text.foldr (fun c (sum, ahead) =>
    let (more, ahead') := ahead.add c
    (sum + more, ahead')) (0, .plain)

def width (text : List Char) : Nat :=
  (measure text).1.toNat

end TableDesk.Text
