import TableDesk.Text.Width

/-!
The columns of a text as they add up from its end. A character may take back a column only where what follows it
has given one to take, so a text never has less than no columns; and a space takes one column wherever it stands at
an end of a text.
-/

namespace TableDesk.Text

theorem measure_cons (c : Char) (rest : List Char) :
    measure (c :: rest) = ((measure rest).1 + ((measure rest).2.add c).1, ((measure rest).2.add c).2) := rfl

/-! ### Columns that may be taken back -/

/-- The columns that the character before a letter may take back. -/
def Joint.owed : Joint → Int
  | .stackable | .boundTifinagh => 1
  | .alef | .lamed | .ya | .vowelYa | .tifinagh | .tone | .orkhonI => 0

/-- The columns that the character before a follower may take back. -/
def Follower.owed : Follower → Int
  | .joinedIndicator | .joinedOdd => 1
  | .letter joint _ => joint.owed
  | .plain | .lineFeed | .emoji | .skinTone | .indicator | .indicators | .joinedEmoji | .joinedKeycap | .joinedEven
  | .tagEnd | .tagDigits _ | .tagLetters _ => 0

theorem Joint.owed_nonneg (joint : Joint) : 0 ≤ joint.owed := by
  cases joint <;> decide

theorem Follower.owed_nonneg (follower : Follower) : 0 ≤ follower.owed := by
  unfold owed
  split
  · decide
  · decide
  · exact Joint.owed_nonneg _
  all_goals exact Int.le_refl 0

/-- No character of an interval is in a set whose intervals lie apart from it. -/
theorem Ranges.has_eq_false_of_apart {ranges : Ranges} {low high : Nat}
    (h : ranges.all fun range => range.2 < low || high < range.1) {c : Char} (hlow : low ≤ c.toNat)
    (hhigh : c.toNat ≤ high) : ranges.has c = false := by
  rw [has, List.any_eq_false]
  intro range hr
  have := List.all_eq_true.1 h range hr
  simp only [Bool.or_eq_true, decide_eq_true_eq, Bool.and_eq_true, not_and] at this ⊢
  omega

theorem one_le_columns_of_isStackable {c : Char} (h : isStackable c = true) : 1 ≤ columns c := by
  have hbounds : 0x1780 ≤ c.toNat ∧ c.toNat ≤ 0x17AF := by
    simp only [isStackable, Ranges.has, List.any_cons, List.any_nil, Bool.or_false, Bool.or_eq_true,
      Bool.and_eq_true, decide_eq_true_eq] at h
    omega
  have hzero : zeroWidthRanges.has c = false :=
    Ranges.has_eq_false_of_apart (by decide +kernel) hbounds.1 hbounds.2
  rw [columns, hzero]
  split
  · exact Nat.le_refl 1
  · split
    · decide
    · split <;> decide

theorem Joint.owed_le_columns {c : Char} {joint : Joint} (h : Joint.of? c = some joint) : joint.owed ≤ columns c := by
  by_cases hs : isStackable c = true
  · have hone : joint.owed ≤ 1 := by cases joint <;> decide
    have := one_le_columns_of_isStackable hs
    omega
  · have hnot : joint ≠ .stackable ∧ joint ≠ .boundTifinagh := by
      unfold Joint.of? at h
      grind
    have hzero : joint.owed = 0 := by
      cases joint with
      | stackable => exact absurd rfl hnot.1
      | boundTifinagh => exact absurd rfl hnot.2
      | _ => rfl
    omega

theorem Follower.owed_ofChar_le (c : Char) : (Follower.ofChar c).owed ≤ columns c := by
  have hzero : (0 : Int) ≤ columns c := Int.natCast_nonneg (columns c)
  unfold Follower.ofChar
  split
  · exact hzero
  · split
    · exact hzero
    · split
      · exact hzero
      · split
        next joint h => exact Joint.owed_le_columns h
        next => exact hzero

/-- What is owed after a character is covered by what was owed before it and what the character adds. -/
def Covers (owed : Int) (added : Int × Ahead) : Prop := added.2.follower.owed ≤ owed + added.1

theorem alone_covers {owed : Int} (ho : 0 ≤ owed) (c : Char) : Covers owed (alone c) := by
  have hc := Follower.owed_ofChar_le c
  show (Follower.ofChar c).owed ≤ owed + columns c
  omega

theorem plain_covers {owed more : Int} (h : 0 ≤ owed + more) : Covers owed (more, .plain) := h

theorem of_covers {owed more : Int} {follower : Follower} (h : follower.owed ≤ owed + more) :
    Covers owed (more, .of follower) := h

theorem beforeLetter_covers (c : Char) (joint : Joint) (joined : Bool) :
    Covers joint.owed (beforeLetter c joint joined) := by
  have halone := alone_covers joint.owed_nonneg c
  have ho := joint.owed_nonneg
  unfold beforeLetter
  split
  next h =>
    subst h
    repeat' split
    all_goals first | exact halone | exact of_covers (Int.le_refl 0)
  next =>
    repeat' split
    all_goals first | exact halone | exact of_covers (by simp [Follower.owed, Joint.owed])

theorem beforeJoinedEmoji_covers (c : Char) : Covers 0 (beforeJoinedEmoji c) := by
  have halone := alone_covers (Int.le_refl 0) c
  unfold beforeJoinedEmoji
  repeat' split
  all_goals first | exact halone | exact of_covers (by decide)

theorem beforeTags_covers (c : Char) (follower : Follower) : Covers 0 (beforeTags c follower) := by
  have halone := alone_covers (Int.le_refl 0) c
  unfold beforeTags
  repeat' split
  all_goals first | exact halone | exact of_covers (Int.le_refl 0)

theorem Follower.add_covers (follower : Follower) (c : Char) : Covers follower.owed (follower.add c) := by
  have halone := alone_covers follower.owed_nonneg c
  cases follower with
  | letter joint joined => exact beforeLetter_covers c joint joined
  | joinedEmoji => exact beforeJoinedEmoji_covers c
  | tagEnd | tagDigits _ | tagLetters _ => exact beforeTags_covers c _
  | plain | lineFeed | joinedKeycap => exact halone
  | emoji | skinTone | indicator | indicators | joinedIndicator | joinedEven | joinedOdd =>
    simp only [Follower.add]
    repeat' split
    all_goals first | exact halone | exact of_covers (by decide)

/-! ### Selectors -/

theorem Follower.owed_behindSelector_le (follower : Follower) : follower.behindSelector.owed ≤ follower.owed := by
  cases follower with
  | letter _ _ => exact Int.le_refl _
  | _ => exact Follower.owed_nonneg _

theorem Ahead.owed_dropEmojiStyle_le (ahead : Ahead) :
    ahead.dropEmojiStyle.follower.owed ≤ ahead.follower.owed := by
  unfold Ahead.dropEmojiStyle
  split
  · exact ahead.follower.owed_behindSelector_le
  · exact Int.le_refl _

theorem Ahead.owed_selectEmoji_le (ahead : Ahead) : ahead.selectEmoji.follower.owed ≤ ahead.follower.owed := by
  unfold Ahead.selectEmoji
  split
  · exact Int.le_refl _
  · exact Int.le_refl _
  · exact Int.le_refl _
  · exact ahead.follower.owed_nonneg

theorem Ahead.add_covers (ahead : Ahead) (c : Char) : Covers ahead.follower.owed (ahead.add c) := by
  have ho := ahead.follower.owed_nonneg
  have hdrop := ahead.owed_dropEmojiStyle_le
  have hemoji := ahead.dropEmojiStyle.owed_selectEmoji_le
  have htext := ahead.dropEmojiStyle.follower.owed_behindSelector_le
  have hadd := ahead.dropEmojiStyle.follower.add_covers c
  have hnone : ∀ more : Int, 0 ≤ more → (0 : Int) ≤ ahead.follower.owed + more := fun more h => Int.add_nonneg ho h
  -- the cases are the tests of `add`, in their order
  unfold Ahead.add
  split
  · exact of_covers (hnone _ (by split <;> decide))
  dsimp only
  split
  · exact of_covers (hnone 1 (by decide))
  split
  · exact plain_covers (hnone _ (by split <;> decide))
  split
  · show ahead.dropEmojiStyle.selectEmoji.follower.owed ≤ ahead.follower.owed + 0
    omega
  split
  · show ahead.dropEmojiStyle.follower.behindSelector.owed ≤ ahead.follower.owed + 0
    omega
  split
  · exact plain_covers (hnone 1 (by decide))
  · exact Int.le_trans hadd (Int.add_le_add_right hdrop _)

/-- The columns of a text cover what its first character may give back. -/
theorem owed_le_measure (text : List Char) : (measure text).2.follower.owed ≤ (measure text).1 := by
  induction text with
  | nil => exact Int.le_refl 0
  | cons c rest ih =>
    have hc := (measure rest).2.add_covers c
    rw [measure_cons]
    exact Int.le_trans hc (Int.add_le_add_right ih _)

/-- The sum that the columns of a text are taken from is never negative. -/
theorem measure_nonneg (text : List Char) : 0 ≤ (measure text).1 :=
  Int.le_trans (Follower.owed_nonneg _) (owed_le_measure text)

/-! ### Spaces at the ends -/

theorem Ahead.add_space (ahead : Ahead) : ahead.add ' ' = (1, .plain) := by
  have hstyle : emojiStyleRanges.has ' ' = false := by decide
  unfold Ahead.add
  rw [hstyle, Bool.and_false]
  rfl

theorem measure_append_space (text : List Char) :
    measure (text ++ [' ']) = ((measure text).1 + 1, (measure text).2) := by
  induction text with
  | nil => exact Ahead.plain.add_space
  | cons c rest ih =>
    rw [List.cons_append, measure_cons, ih, measure_cons, Int.add_right_comm]

theorem width_cons_space (text : List Char) : width (' ' :: text) = width text + 1 := by
  have := measure_nonneg text
  rw [width, measure_cons, Ahead.add_space, width]
  dsimp only
  omega

theorem width_append_space (text : List Char) : width (text ++ [' ']) = width text + 1 := by
  have := measure_nonneg text
  rw [width, measure_append_space, width]
  dsimp only
  omega

end TableDesk.Text
