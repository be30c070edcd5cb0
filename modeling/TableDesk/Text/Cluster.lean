import TableDesk.Text.ClusterBreak
import TableDesk.Text.Emoji
import TableDesk.Text.Marks

/-!
Perceived characters. A text is cut into clusters, each of which a screen shows as one symbol:
a base with its marks, a syllable of jamo, a flag, emoji held together by joiners.
-/

namespace TableDesk.Text

/-- The role of a character at the border of a cluster. -/
inductive Role where
  | carriageReturn
  | lineFeed
  | control
  | extend
  | joiner
  | indicator
  | prepended
  | spacing
  | leading
  | vowel
  | trailing
  | openSyllable
  | closedSyllable
  | pictograph
  | other
  deriving DecidableEq, Repr

def Role.of (c : Char) : Role :=
  let n := c.toNat
  if c = '\r' then .carriageReturn
  else if c = '\n' then .lineFeed
  else if n < 0x7F then if n < 0x20 then .control else .other
  else if c = '\u200D' then .joiner
  else if isAttachedMark c || isSkinTone c then .extend
  else if clusterControls.has c then .control
  else if isIndicator c then .indicator
  else if (0x1100 ≤ n && n ≤ 0x115F) || (0xA960 ≤ n && n ≤ 0xA97C) then .leading
  else if medialVowels.has c then .vowel
  else if (0x11A8 ≤ n && n ≤ 0x11FF) || (0xD7CB ≤ n && n ≤ 0xD7FB) then .trailing
  else if 0xAC00 ≤ n && n ≤ 0xD7A3 then
    if (n - 0xAC00) % 28 = 0 then .openSyllable else .closedSyllable
  else if spacingMarks.has c then .spacing
  else if prependedSigns.has c then .prepended
  else if pictographs.has c then .pictograph
  else .other

/-- How far a cluster has come with stacking one consonant on another. -/
inductive Conjunct where
  | none
  | consonant
  | linked
  deriving DecidableEq, Repr

/-- How far a cluster has come with joining one pictograph to another: a pictograph with its marks,
and one with a joiner behind it. -/
inductive Picture where
  | none
  | shown
  | joined
  deriving DecidableEq, Repr

/-- What a cluster under construction tells about the character that may join it. -/
structure Border where
  last : Role
  picture : Picture
  oddIndicators : Bool
  conjunct : Conjunct
  deriving DecidableEq, Repr

def Border.start (c : Char) : Border :=
  let role := Role.of c
  { last := role
    picture := if role = .pictograph then .shown else .none
    oddIndicators := role = .indicator
    conjunct := if conjunctConsonants.has c then .consonant else .none }

/-- Whether a character belongs to the cluster before it. -/
def Border.accepts (border : Border) (c : Char) : Bool :=
  match border.last, Role.of c with
  | .carriageReturn, .lineFeed => true
  | .carriageReturn, _ | .lineFeed, _ | .control, _ => false
  | _, .carriageReturn | _, .lineFeed | _, .control => false
  | _, .extend | _, .joiner | _, .spacing => true
  | .prepended, _ => true
  | .leading, .leading | .leading, .vowel => true
  | .leading, .openSyllable | .leading, .closedSyllable => true
  | .openSyllable, .vowel | .openSyllable, .trailing => true
  | .vowel, .vowel | .vowel, .trailing => true
  | .closedSyllable, .trailing | .trailing, .trailing => true
  | .joiner, .pictograph => border.picture = .joined
  | .indicator, .indicator => border.oddIndicators
  | _, _ => border.conjunct = .linked && conjunctConsonants.has c

def Border.extend (border : Border) (c : Char) : Border :=
  let role := Role.of c
  { last := role
    picture :=
      match role, border.picture with
      | .pictograph, _ | .extend, .shown => .shown
      | .joiner, .shown => .joined
      | _, _ => .none
    oddIndicators := role = .indicator && !border.oddIndicators
    conjunct :=
      if conjunctConsonants.has c then .consonant
      else if border.conjunct = .none then .none
      else if conjunctLinkers.has c then .linked
      else if (role = .extend && c ≠ '\u200C') || role = .joiner then border.conjunct
      else .none }

/-- Cuts the text after a cluster under construction. -/
def clustersFrom (cluster : List Char) (border : Border) : List Char → List (List Char)
  | [] => [cluster]
  | c :: rest =>
    if border.accepts c then clustersFrom (cluster ++ [c]) (border.extend c) rest
    else cluster :: clustersFrom [c] (.start c) rest

def clusters : List Char → List (List Char)
  | [] => []
  | c :: rest => clustersFrom [c] (.start c) rest

theorem flatten_clustersFrom (cluster : List Char) (border : Border) (text : List Char) :
    (clustersFrom cluster border text).flatten = cluster ++ text := by
  induction text generalizing cluster border with
  | nil => simp [clustersFrom]
  | cons c rest ih =>
    rw [clustersFrom]
    split <;> simp [ih]

/-- The clusters of a text make up the text. -/
theorem flatten_clusters (text : List Char) : (clusters text).flatten = text := by
  cases text with
  | nil => rfl
  | cons c rest => simp [clusters, flatten_clustersFrom]

end TableDesk.Text
