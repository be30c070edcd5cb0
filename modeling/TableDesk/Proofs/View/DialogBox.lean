import TableDesk.Proofs.Screen.Words
import TableDesk.Proofs.Text.Cluster
import TableDesk.Proofs.Text.Fit
import TableDesk.View.DialogBox

/-!
The sizes of a dialog. Found in words of sixteen bits, the box of a dialog is the same as in numbers of any size;
on a screen of some columns and rows, the body has room above the buttons, and the buttons have room in their row.
-/

namespace TableDesk

open Screen

namespace DialogBox

/-! ### In words -/

def widthWord (d : Dialog) (screenWidth : UInt16) : UInt16 :=
  let wanted := Word.addSat ((Word.ofNat? (contentWidth d)).getD (.ofNat maxWidth)) (.ofNat padding)
  min (min (max wanted (.ofNat minWidth)) (.ofNat maxWidth)) screenWidth

def bodyWords (d : Dialog) (screen : WordRect) : List (List Char) :=
  let columns := (Word.subSat (widthWord d screen.width) (.ofNat padding)).toNat
  let rows := max (Word.subSat screen.height (.ofNat framing)).toNat 1
  Text.fit Text.charColumns rows columns (Text.wrap Text.charColumns Text.width columns d.body.toList)

def heightWord (d : Dialog) (screen : WordRect) : UInt16 :=
  Word.addSat ((Word.ofNat? (bodyWords d screen).length).getD 65535) (.ofNat framing)

/-- The box of a dialog in words. There is none if a plain sum does not fit into a word. -/
def area? (d : Dialog) (screen : WordRect) : Option WordRect :=
  WordRect.centered? (widthWord d screen.width) (heightWord d screen) screen

theorem width_eq (d : Dialog) (screenWidth : Nat) :
    width d screenWidth = min (max 30 (min (contentWidth d + 6) 70)) screenWidth := rfl

theorem toNat_widthWord (d : Dialog) (screenWidth : UInt16) :
    (widthWord d screenWidth).toNat = width d screenWidth.toNat := by
  have hpadding : (UInt16.ofNat padding).toNat = 6 := rfl
  have hmin : (UInt16.ofNat minWidth).toNat = 30 := rfl
  have hmax : (UInt16.ofNat maxWidth).toNat = 70 := rfl
  have hlimit : 76 ≤ Rect.limit := by decide
  have hwanted : (Word.addSat ((Word.ofNat? (contentWidth d)).getD (.ofNat maxWidth)) (.ofNat padding)).toNat =
      min ((if contentWidth d ≤ Rect.limit then contentWidth d else 70) + 6) Rect.limit := by
    rw [Word.toNat_addSat, Word.toNat_ofNat?_getD, hmax, hpadding]
  rw [widthWord, Word.toNat_min, Word.toNat_min, Word.toNat_max, hwanted, hmin, hmax, width_eq]
  -- all that matters of the largest position is that it lies beyond the widest box
  generalize Rect.limit = limit at hlimit ⊢
  split <;> omega

theorem bodyWords_eq (d : Dialog) (screen : WordRect) : bodyWords d screen = body d screen.toRect := by
  have hcolumns : (Word.subSat (widthWord d screen.width) (.ofNat padding)).toNat =
      bodyWidth d screen.width.toNat := by
    rw [Word.toNat_subSat, toNat_widthWord]
    rfl
  have hrows : max (Word.subSat screen.height (.ofNat framing)).toNat 1 = bodyHeight screen.height.toNat := by
    rw [Word.toNat_subSat]
    rfl
  rw [bodyWords, hcolumns, hrows]
  rfl

theorem toNat_heightWord (d : Dialog) (screen : WordRect) : (heightWord d screen).toNat = height d screen.toRect := by
  have hframing : (UInt16.ofNat framing).toNat = framing := rfl
  have hlargest : (65535 : UInt16).toNat = Rect.limit := rfl
  rw [heightWord, bodyWords_eq, Word.toNat_addSat, Word.toNat_ofNat?_getD, hframing, hlargest, height]
  by_cases h : (body d screen.toRect).length ≤ Rect.limit
  · rw [if_pos h]
  · rw [if_neg h]
    omega

/-- No sum is too large for a word while the box of a dialog is found. -/
theorem toRect_area? (d : Dialog) {screen : Rect} (hr : screen.right ≤ Rect.limit)
    (hb : screen.bottom ≤ Rect.limit) : (area? d screen.toWords).map WordRect.toRect = some (area d screen) := by
  have hscreen := Rect.toRect_toWords hr hb
  have hwidth : screen.toWords.width.toNat = screen.width := congrArg Rect.width hscreen
  rw [← hscreen] at hr hb
  rw [area?, WordRect.toRect_centered? hr hb, toNat_widthWord, toNat_heightWord, hscreen, hwidth, area]

/-! ### The box -/

theorem width_le (d : Dialog) (screenWidth : Nat) : width d screenWidth ≤ screenWidth := Nat.min_le_right _ _

theorem length_body_le (d : Dialog) (screen : Rect) : (body d screen).length ≤ max (screen.height - 5) 1 :=
  Nat.le_trans (Nat.le_of_eq (Text.fit_cutTo _ _ _).length) (Nat.min_le_left _ _)

theorem area_eq (d : Dialog) {screen : Rect} (hr : screen.right ≤ Rect.limit) (hb : screen.bottom ≤ Rect.limit) :
    area d screen =
      ⟨screen.x + (screen.width - width d screen.width) / 2, screen.y + (screen.height - height d screen) / 2,
        width d screen.width, min (height d screen) screen.height⟩ := by
  have hwidth := width_le d screen.width
  unfold Rect.right at hr
  unfold Rect.bottom at hb
  rw [area, Rect.centered, Rect.clamped]
  generalize Rect.limit = limit at *
  rw [Rect.mk.injEq]
  omega

theorem inner_eq {r : Rect} (hw : 1 ≤ r.width) (hh : 1 ≤ r.height) :
    r.inner = ⟨r.x + 1, r.y + 1, r.width - 2, r.height - 2⟩ := by
  rw [Rect.inner, Rect.right, Rect.bottom, Nat.min_eq_left (by omega), Nat.min_eq_left (by omega)]

/-- What the inner area of a box offers to the body: rows for a blank line and for every line, above the row of the
buttons, and columns for every line and its indent, except for a character that is wider than the columns. -/
structure BodyFits (d : Dialog) (screen inner : Rect) : Prop where
  rows : (body d screen).length + 1 ≤ (bodyArea inner).height
  above : (bodyArea inner).bottom = (buttonArea inner).y
  columns : ∀ line ∈ body d screen, Text.columnSum Text.charColumns (' ' :: ' ' :: line) ≤ inner.width ∨
    ∃ c, line = [c] ∧ bodyWidth d screen.width < Text.charColumns c

theorem columnSum_of_mem_body {d : Dialog} {screen : Rect} (hw : 7 ≤ width d screen.width) {line : List Char}
    (hl : line ∈ body d screen) : Text.columnSum Text.charColumns line ≤ bodyWidth d screen.width ∨
      ∃ c, line = [c] ∧ bodyWidth d screen.width < Text.charColumns c := by
  have hone : 1 ≤ bodyWidth d screen.width := Nat.le_sub_of_add_le hw
  have hfits : Text.Fits Text.charColumns (max (bodyWidth d screen.width) 1) line :=
    Text.fits_of_mem_fit (fun _ hline => Text.fits_of_mem_wrap hline) hl
  rw [Nat.max_eq_left hone] at hfits
  by_cases hle : Text.columnSum Text.charColumns line ≤ bodyWidth d screen.width
  · exact .inl hle
  · obtain ⟨c, rfl⟩ := hfits.resolve_left hle
    exact .inr ⟨c, rfl, by simpa using hle⟩

section Sizes

variable (d : Dialog) {screen : Rect} (hr : screen.right ≤ Rect.limit) (hb : screen.bottom ≤ Rect.limit)
  (hrows : 5 ≤ screen.height) (hcolumns : 7 ≤ screen.width)
include hr hb hrows hcolumns

/-- On a screen of some size, the box has columns for the frame and more, and rows for the body, the frame, the
buttons and a blank row. -/
theorem le_area : 7 ≤ (area d screen).width ∧ 5 ≤ (area d screen).height ∧
    (body d screen).length + 4 ≤ (area d screen).height := by
  have hlength := length_body_le d screen
  have hheight : height d screen = min ((body d screen).length + 5) Rect.limit := rfl
  have hlimit : 6 ≤ Rect.limit := by decide
  rw [area_eq d hr hb, hheight, width_eq]
  unfold Rect.bottom at hb
  dsimp only
  generalize Rect.limit = limit at *
  omega

theorem inner_area : (area d screen).inner =
    ⟨(area d screen).x + 1, (area d screen).y + 1, (area d screen).width - 2, (area d screen).height - 2⟩ := by
  obtain ⟨hwidth, hheight, -⟩ := le_area d hr hb hrows hcolumns
  exact inner_eq (by omega) (by omega)

theorem bodyFits : BodyFits d screen (area d screen).inner := by
  obtain ⟨hseven, hfive, hbody⟩ := le_area d hr hb hrows hcolumns
  have hwidth : (area d screen).width = width d screen.width := by rw [area_eq d hr hb]
  rw [inner_area d hr hb hrows hcolumns, hwidth]
  rw [hwidth] at hseven
  refine ⟨?_, ?_, fun line hl => (columnSum_of_mem_body hseven hl).imp_left fun hle => ?_⟩
  · simp only [bodyArea]
    omega
  · simp only [bodyArea, buttonArea, Rect.bottom]
    omega
  · have hspace : Text.charColumns ' ' = 1 := by decide
    have hcolumns : bodyWidth d screen.width = width d screen.width - 6 := rfl
    rw [Text.columnSum_cons, Text.columnSum_cons, hspace]
    dsimp only
    omega

end Sizes

/-! ### The buttons -/

theorem toList_buttonLabel (label : String) : (buttonLabel label).toList = ' ' :: (label.toList ++ [' ']) := by
  simp [buttonLabel, toString]

theorem not_mem_buttonLabel {label : String} {c : Char} (hc : c ≠ ' ') (h : c ∉ label.toList) :
    c ∉ (buttonLabel label).toList := by
  simpa [toList_buttonLabel, hc] using h

theorem clusterColumns_buttonLabel (label : String) :
    Text.clusterColumns (buttonLabel label).toList = Text.clusterColumns label.toList + 2 := by
  rw [toList_buttonLabel, Text.clusterColumns_cons_space, Text.clusterColumns_append_space]

theorem textWidth_buttonLabel (label : String) : textWidth (buttonLabel label) = textWidth label + 2 := by
  rw [textWidth, toList_buttonLabel, Text.width_cons_space, Text.width_append_space]
  rfl

/-- The columns of the buttons: four in front of each, and two around its label. -/
def buttonColumns (actions : List Action) : Nat := (actions.map fun action => textWidth action.label + 6).sum

theorem buttonsWidth_eq (actions : List Action) : buttonsWidth actions = buttonColumns actions := by
  induction actions with
  | nil => rfl
  | cons action rest ih =>
    have hrest : buttonsWidth (action :: rest) = textWidth (buttonLabel action.label) + 4 + buttonsWidth rest := rfl
    rw [hrest, ih, textWidth_buttonLabel, buttonColumns, buttonColumns, List.map_cons, List.sum_cons]

/-- A box has columns for the buttons and the frame, if it may be as wide as they need. -/
theorem buttonColumns_le_width (d : Dialog) {screenWidth : Nat} (h : buttonColumns d.actions ≤ 64)
    (hscreen : buttonColumns d.actions + 2 ≤ screenWidth) : buttonColumns d.actions + 2 ≤ width d screenWidth := by
  have hcontent : buttonColumns d.actions ≤ contentWidth d := by
    rw [← buttonsWidth_eq]
    exact Nat.le_trans (Nat.le_max_right _ _) (Nat.le_max_left _ _)
  rw [width_eq]
  omega

end DialogBox

end TableDesk
