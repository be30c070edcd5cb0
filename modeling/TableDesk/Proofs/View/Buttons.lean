import Mathlib.Algebra.Order.BigOperators.Group.List
import Mathlib.Algebra.Order.Group.Nat
import TableDesk.Proofs.Screen.Spans
import TableDesk.Proofs.View.DialogBox

/-!
What a dialog shows. The row of the buttons lies on the last row inside the frame, which nothing else draws on, so
what can be read there are the symbols of the buttons, as many as fit.
-/

namespace TableDesk

open Screen

namespace Screen

/-! ### The symbols of a span -/

theorem shownSymbols_append (symbols more : List Symbol) :
    shownSymbols (symbols ++ more) = shownSymbols symbols ++ shownSymbols more := by
  simp [shownSymbols]

namespace Span

variable {span : Span}

theorem shownSymbols_symbols (h : '\n' ∉ span.text) (base : Style) :
    shownSymbols (span.symbols base) = Text.shown span.text := by
  rw [symbols_of_not_mem h, Text.shown]
  induction Text.clusters span.text with
  | nil => rfl
  | cons cluster rest ih =>
    by_cases hw : Text.width cluster = 0
    · rw [List.map_cons, shownSymbols_cons_of_eq_zero _ hw, ih, List.filter_cons_of_neg (by simp [hw])]
    · rw [List.map_cons, shownSymbols_cons_of_ne_zero _ hw, ih, List.filter_cons_of_pos (by simp [hw]),
        List.flatten_cons]

end Span

end Screen

namespace DialogBox

/-! ### The symbols of the buttons -/

/-- What is seen of the buttons: every label between two spaces, behind a gap. A cluster of a label that has no width
is not drawn, and so it is left out here. -/
def buttonText (actions : List Action) : List Char :=
  actions.flatMap fun action => buttonGap.toList ++ Text.shown (buttonLabel action.label).toList

def buttonSymbols (focus position : Nat) : List Action → List Symbol
  | [] => []
  | action :: rest =>
    (Span.raw buttonGap).symbols .plain ++
      (Span.styled (buttonLabel action.label) (buttonStyle (position == focus) action.kind)).symbols .plain ++
      buttonSymbols focus (position + 1) rest

theorem symbols_buttonSpans (actions : List Action) (focus : Nat) :
    (StyledLine.ofSpans (buttonSpans actions focus)).symbols = buttonSymbols focus 0 actions := by
  unfold StyledLine.symbols StyledLine.ofSpans buttonSpans
  generalize 0 = position
  induction actions generalizing position with
  | nil => rfl
  | cons action rest ih => simp [buttonSymbols, ← ih]

section Symbols

variable {actions : List Action} (h : ∀ action ∈ actions, '\n' ∉ action.label.toList)
include h

theorem shownSymbols_buttonSymbols (focus position : Nat) :
    shownSymbols (buttonSymbols focus position actions) = buttonText actions := by
  induction actions generalizing position with
  | nil => rfl
  | cons action rest ih =>
    have hlabel := not_mem_buttonLabel (by decide) (h action List.mem_cons_self)
    have hgap : shownSymbols ((Span.raw buttonGap).symbols .plain) = buttonGap.toList := by decide +kernel
    have hrest := ih (fun other ho => h other (List.mem_cons_of_mem action ho)) (position + 1)
    rw [buttonSymbols, shownSymbols_append, shownSymbols_append, hgap, Span.shownSymbols_symbols hlabel, hrest]
    rfl

theorem widthOf_buttonSymbols (focus position : Nat) :
    Paragraph.widthOf (buttonSymbols focus position actions) =
      (actions.map fun action => Text.clusterColumns action.label.toList + 6).sum := by
  induction actions generalizing position with
  | nil => rfl
  | cons action rest ih =>
    have hlabel := not_mem_buttonLabel (by decide) (h action List.mem_cons_self)
    have hgap : Paragraph.widthOf ((Span.raw buttonGap).symbols .plain) = 4 := by decide +kernel
    have hrest := ih (fun other ho => h other (List.mem_cons_of_mem action ho)) (position + 1)
    have hspan : Paragraph.widthOf
        ((Span.styled (buttonLabel action.label) (buttonStyle (position == focus) action.kind)).symbols .plain) =
          Text.clusterColumns action.label.toList + 2 :=
      (Span.widthOf_symbols hlabel .plain).trans (clusterColumns_buttonLabel action.label)
    rw [buttonSymbols, Paragraph.widthOf_append, Paragraph.widthOf_append, hgap, hspan, hrest, List.map_cons,
      List.sum_cons]
    omega

end Symbols

/-! ### The row of the buttons -/

/-- What can be read on the row of the buttons, inside the frame. -/
def buttonRowText (d : Dialog) (screen : Rect) (canvas : Canvas) : List Char :=
  let inner := (area d screen).inner
  rowText (canvas.stretch (buttonArea inner).y inner.x inner.width)

section Row

variable (d : Dialog) (focus : Nat) {screen : Rect} (hr : screen.right ≤ Rect.limit)
  (hb : screen.bottom ≤ Rect.limit) (hrows : 5 ≤ screen.height) (hcolumns : 7 ≤ screen.width)
include hr hb hrows hcolumns

/-- The row of the buttons lies inside the frame. -/
theorem buttonArea_within (x y : Nat) (h : (buttonArea (area d screen).inner).contains x y = true) :
    Frame.Within (area d screen) x y := by
  obtain ⟨hwidth, hheight, -⟩ := le_area d hr hb hrows hcolumns
  rw [inner_area d hr hb hrows hcolumns, Rect.contains_iff] at h
  simp only [Frame.Within, buttonArea, Rect.right, Rect.bottom] at *
  omega

/-- Nothing else is drawn on the row of the buttons. -/
theorem blankAt_buttonArea {canvas : Canvas}
    (hcanvas : ∀ x y, screen.contains x y = true → (canvas.cell? x y).isSome) :
    ((bodyText (body d screen)).draw (bodyArea (area d screen).inner)
      ((frame d).draw (area d screen) (canvas.clear (area d screen)))).BlankAt
        (buttonArea (area d screen).inner).y (area d screen).inner.x (area d screen).inner.width := by
  intro x hx hlt
  have hrow : (buttonArea (area d screen).inner).contains x (buttonArea (area d screen).inner).y = true :=
    Rect.contains_iff.2 ⟨⟨hx, hlt⟩, Nat.le_refl _, Nat.lt_succ_self _⟩
  have hwithin := buttonArea_within d hr hb hrows hcolumns x _ hrow
  have habove := (bodyFits d hr hb hrows hcolumns).above
  have hscreen := (area_inside d screen).contains hwithin.contains
  rw [Paragraph.draw_keeps (bodyText (body d screen)) _ _ x _ (.inr (Nat.le_of_eq habove)),
    (frame d).draw_keeps (area d screen) _ x _ hwithin]
  exact Canvas.symbol?_clear hwithin.contains (hcanvas x _ hscreen)

/-- The row of the buttons shows their symbols, as many as fit. -/
theorem exists_buttonRowText_draw {canvas : Canvas}
    (hcanvas : ∀ x y, screen.contains x y = true → (canvas.cell? x y).isSome) :
    ∃ left right, buttonRowText d screen (draw d focus screen canvas) =
      List.replicate left ' ' ++
        shownSymbols (Paragraph.cut (area d screen).inner.width 0 (buttonSymbols focus 0 d.actions)) ++
          List.replicate right ' ' := by
  have hblank := blankAt_buttonArea d hr hb hrows hcolumns hcanvas
  have hinner : (area d screen).inner.width ≠ 0 ∧ (area d screen).inner.height ≠ 0 := by
    obtain ⟨hwidth, hheight, -⟩ := le_area d hr hb hrows hcolumns
    rw [inner_area d hr hb hrows hcolumns]
    dsimp only
    omega
  have hdraw := Paragraph.exists_rowText_draw (p := buttonRow d.actions focus) rfl
    (buttonArea (area d screen).inner) hinner.1 Nat.one_ne_zero hblank
  rw [symbols_buttonSpans] at hdraw
  unfold draw
  rw [if_neg hinner.2]
  exact hdraw

end Row

/-! ### Dialogs on any screen -/

/-- A label without control characters, whose clusters take no more columns side by side than the label. -/
structure DrawnAsMeasured (label : String) : Prop where
  printable : ∀ c ∈ label.toList, Text.isControl c = false
  columns : Text.clusterColumns label.toList ≤ textWidth label

/-- Decided along the text, not over all characters. -/
theorem forall_printable_iff {text : List Char} :
    (∀ c ∈ text, Text.isControl c = false) ↔ text.all (fun c => !Text.isControl c) = true := by
  simp

instance (label : String) : Decidable (DrawnAsMeasured label) :=
  decidable_of_iff
    (label.toList.all (fun c => !Text.isControl c) = true ∧ Text.clusterColumns label.toList ≤ textWidth label)
    ⟨fun h => ⟨forall_printable_iff.2 h.1, h.2⟩, fun h => ⟨forall_printable_iff.1 h.printable, h.columns⟩⟩

/-- Every label can be read in full but for its clusters without a width, with blanks between the buttons and around
them. -/
def ShowsButtons (d : Dialog) (screen : Rect) (canvas : Canvas) : Prop :=
  ∃ left right,
    buttonRowText d screen canvas = List.replicate left ' ' ++ buttonText d.actions ++ List.replicate right ' '

theorem shows_buttons {d : Dialog} {screen : Rect} (hr : screen.right ≤ Rect.limit) (hb : screen.bottom ≤ Rect.limit)
    (hrows : 5 ≤ screen.height) (hcolumns : 7 ≤ screen.width)
    (hlabels : ∀ action ∈ d.actions, DrawnAsMeasured action.label) (hwidest : buttonColumns d.actions ≤ 64)
    (hroom : buttonColumns d.actions + 2 ≤ screen.width) (focus : Nat) {canvas : Canvas}
    (hcanvas : ∀ x y, screen.contains x y = true → (canvas.cell? x y).isSome) :
    ShowsButtons d screen (draw d focus screen canvas) := by
  have hline : ∀ action ∈ d.actions, '\n' ∉ action.label.toList := fun action ha hn =>
    absurd ((hlabels action ha).printable '\n' hn) (by decide)
  have hfits : Paragraph.widthOf (buttonSymbols focus 0 d.actions) ≤ (area d screen).inner.width := by
    have hbuttons : Paragraph.widthOf (buttonSymbols focus 0 d.actions) ≤ buttonColumns d.actions := by
      rw [widthOf_buttonSymbols hline]
      exact List.sum_le_sum fun action ha => Nat.add_le_add_right (hlabels action ha).columns 6
    have hbox := buttonColumns_le_width d hwidest hroom
    rw [inner_area d hr hb hrows hcolumns, area_eq d hr hb]
    dsimp only
    omega
  obtain ⟨left, right, he⟩ := exists_buttonRowText_draw d focus hr hb hrows hcolumns hcanvas
  refine ⟨left, right, ?_⟩
  rw [Paragraph.cut_eq_self (by simpa using hfits), shownSymbols_buttonSymbols hline] at he
  exact he

/-- On any screen a dialog has a box that lies inside, and no sum is too large for a word while the box is found. A
body is cut to the rows that it may take, and only in its last line. On a screen of at least five rows and seven
columns the body fits above the buttons. Labels that are drawn as they are measured can be read in full, inside the
frame, if the buttons take at most 64 columns and two less than the screen. -/
theorem fits_screen_and_shows_content (d : Dialog) {screen : Rect} (hr : screen.right ≤ Rect.limit)
    (hb : screen.bottom ≤ Rect.limit) :
    ((area d screen).Inside screen ∧ (area? d screen.toWords).map WordRect.toRect = some (area d screen)) ∧
      (∀ height width block, Text.CutTo height width block (Text.fit Text.charColumns height width block)) ∧
      (5 ≤ screen.height → 7 ≤ screen.width →
        BodyFits d screen (area d screen).inner ∧
          ((∀ action ∈ d.actions, DrawnAsMeasured action.label) → buttonColumns d.actions ≤ 64 →
            buttonColumns d.actions + 2 ≤ screen.width →
              (∀ x y, (buttonArea (area d screen).inner).contains x y = true → Frame.Within (area d screen) x y) ∧
                ∀ focus canvas, (∀ x y, screen.contains x y = true → (canvas.cell? x y).isSome) →
                  ShowsButtons d screen (draw d focus screen canvas))) := by
  refine ⟨⟨area_inside d screen, toRect_area? d hr hb⟩, Text.fit_cutTo, fun hrows hcolumns => ?_⟩
  refine ⟨bodyFits d hr hb hrows hcolumns, fun hlabels hwidest hroom => ?_⟩
  refine ⟨buttonArea_within d hr hb hrows hcolumns, fun focus canvas hcanvas => ?_⟩
  exact shows_buttons hr hb hrows hcolumns hlabels hwidest hroom focus hcanvas

/-- A question with a body that is too long for a small screen. -/
def longQuestion : Dialog :=
  .confirmation "Delete" "Delete 3 tables? This cannot be undone." "删除" "Close"
    ⟨"tables", "delete", ["AO_60DB71_SPRINT"]⟩

/-- On a screen of 24 columns and seven rows, two lines of the body are kept, and both labels are shown. -/
theorem longQuestion_fits :
    let screen : Rect := ⟨0, 0, 24, 7⟩
    body longQuestion screen = ["Delete 3 tables?".toList, "This cannot be…".toList] ∧
      BodyFits longQuestion screen ⟨1, 1, 22, 5⟩ ∧
      ∃ left right, buttonRowText longQuestion screen (draw longQuestion 0 screen (.blank 24 7)) =
        List.replicate left ' ' ++ "     删除      Close ".toList ++ List.replicate right ' ' := by
  intro screen
  have hinner : (area longQuestion screen).inner = ⟨1, 1, 22, 5⟩ := by decide +kernel
  have htext : buttonText longQuestion.actions = "     删除      Close ".toList := by decide +kernel
  have hlabels : ∀ action ∈ longQuestion.actions, DrawnAsMeasured action.label := by decide +kernel
  have hright : screen.right ≤ Rect.limit := by decide
  have hbottom : screen.bottom ≤ Rect.limit := by decide
  obtain ⟨-, -, hfits⟩ := fits_screen_and_shows_content longQuestion hright hbottom
  obtain ⟨hbody, hbuttons⟩ := hfits (by decide) (by decide)
  obtain ⟨-, hshows⟩ := hbuttons hlabels (by decide +kernel) (by decide +kernel)
  refine ⟨by decide +kernel, hinner ▸ hbody, ?_⟩
  rw [← htext]
  exact hshows 0 (.blank 24 7) fun x y => Canvas.isSome_cell?_blank

/-- A label in which neighbouring letters join, and signs take more columns than their characters. -/
def joinedLabel : String := String.ofList (List.replicate 6 ['\u0644', '\u0627', '\u263A', '\uFE0F']).flatten

/-- That a label takes as many columns as its characters is not enough: drawn cluster by cluster it may take more,
and then its end is cut off. -/
theorem joinedLabel_cut_off :
    let d : Dialog := .notice "t" "b" joinedLabel
    let screen : Rect := ⟨0, 0, 40, 10⟩
    (5 ≤ screen.height ∧ 7 ≤ screen.width) ∧
      ((∀ c ∈ joinedLabel.toList, Text.isControl c = false) ∧
        textWidth joinedLabel = Text.columnSum Text.charColumns joinedLabel.toList) ∧
      (buttonColumns d.actions ≤ 64 ∧ buttonColumns d.actions + 2 ≤ screen.width) ∧
      ¬joinedLabel.toList <:+: buttonRowText d screen (draw d 0 screen (.blank 40 10)) := by
  intro d screen
  have hright : screen.right ≤ Rect.limit := by decide
  have hbottom : screen.bottom ≤ Rect.limit := by decide
  have hcolumns : buttonColumns d.actions = 24 := by decide +kernel
  have hlabel : joinedLabel.toList.count '☺' = 6 := by decide +kernel
  have hcut : (shownSymbols (Paragraph.cut (area d screen).inner.width 0 (buttonSymbols 0 0 d.actions))).count '☺' =
      5 := by decide +kernel
  refine ⟨by decide, ⟨forall_printable_iff.2 (by decide +kernel), by decide +kernel⟩, by rw [hcolumns]; decide,
    fun hinfix => ?_⟩
  obtain ⟨left, right, he⟩ := exists_buttonRowText_draw d 0 hright hbottom (by decide) (by decide)
    fun x y => Canvas.isSome_cell?_blank
  have hcount := hinfix.sublist.count_le '☺'
  rw [he, List.count_append, List.count_append, hcut, hlabel] at hcount
  simp [List.count_replicate] at hcount

end DialogBox

end TableDesk
