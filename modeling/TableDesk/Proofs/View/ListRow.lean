import TableDesk.Proofs.Screen.Spans
import TableDesk.View.TableList

/-!
What is drawn of the rows of a list. Each row has a line of the area for itself. The sign at its start, which is the
arrow of a group or the box of a table, can be read wherever it fits, whatever stands behind it; the whole row can be
read if its texts are drawn as they are counted. The rows that are drawn hold the row under the cursor.
-/

namespace TableDesk

open Screen
open Paragraph (widthOf)

namespace ListRow

/-! ### Texts and styles -/

def IsGroup (row : ListRow) : Prop := ∃ unfolded label summary, row.content = .group unfolded label summary

def texts (p : Palette) (row : ListRow) : List String := (row.spans p).map fun span => String.ofList span.text

/-- The sign at the start of a row: the arrow of a group, or the box of a table behind its margin. -/
def sign (row : ListRow) : List Char :=
  match row.content with
  | .group unfolded _ _ => (if unfolded then " ▾ " else " ▸ ").toList
  | .table checked _ _ => (if checked then "     [x]" else "     [ ]").toList

/-- The middle of the arrow or of the box. -/
def mark (row : ListRow) : Char :=
  match row.content with
  | .group unfolded _ _ => if unfolded then '▾' else '▸'
  | .table checked _ _ => if checked then 'x' else ' '

/-- The column of the mark, from the left side of the row on. -/
def markColumn (row : ListRow) : Nat :=
  match row.content with
  | .group _ _ _ => 1
  | .table _ _ _ => 6

def signSpans (p : Palette) (row : ListRow) : List Span :=
  match row.content with
  | .group _ _ _ => (row.spans p).take 1
  | .table _ _ _ => (row.spans p).take 2

theorem texts_group (p : Palette) (unfolded underCursor : Bool) (label summary : String) :
    texts p ⟨.group unfolded label summary, underCursor⟩ =
      [if unfolded then " ▾ " else " ▸ ", label, s!"  ({summary})"] := by
  simp [texts, spans, Span.styled, String.append_assoc]

theorem texts_table (p : Palette) (checked underCursor : Bool) (name size : String) :
    texts p ⟨.table checked name size, underCursor⟩ =
      ["     ", if checked then "[x]" else "[ ]", " ", name, s!"  {size}"] := by
  simp [texts, spans, Span.raw, Span.styled]

theorem flatMap_texts (p : Palette) (row : ListRow) :
    (row.texts p).flatMap String.toList = (row.spans p).flatMap (·.text) := by
  simp [texts, List.flatMap_map]

/-- The row under the cursor is in the style of the cursor, up to the margin before a table. -/
theorem style_of_underCursor (p : Palette) {row : ListRow} (h : row.underCursor = true) :
    ∀ span ∈ row.spans p, span = .raw "     " ∨ span.style = p.cursorStyle := by
  obtain ⟨content, underCursor⟩ := row
  obtain rfl : underCursor = true := h
  cases content <;> simp [spans, Span.styled, Span.raw]

/-- No other row has a background. -/
theorem background_of_not_underCursor (p : Palette) {row : ListRow} (h : row.underCursor = false) :
    ∀ span ∈ row.spans p, span.style.background = none := by
  obtain ⟨content, underCursor⟩ := row
  obtain rfl : underCursor = false := h
  cases content with
  | group unfolded label summary =>
    cases unfolded <;> simp [spans, Span.styled, Palette.unfoldedStyle, Style.inBold, Style.fg, Style.plain]
  | table checked name size => simp [spans, Span.styled, Span.raw, Style.fg, Style.plain]

/-- No other row has the style of the cursor. -/
theorem style_ne_of_not_underCursor (p : Palette) {row : ListRow} (h : row.underCursor = false) :
    ∀ span ∈ row.spans p, span.style ≠ p.cursorStyle := by
  intro span hm hs
  have hnone := background_of_not_underCursor p h span hm
  rw [hs] at hnone
  cases hnone

/-! ### The sign -/

theorem exists_spans_eq (p : Palette) (row : ListRow) : ∃ back, row.spans p = row.signSpans p ++ back := by
  unfold signSpans
  split <;> exact ⟨_, (List.take_append_drop _ _).symm⟩

theorem oneByOne_styled {text : String} (h : text ∈ [" ▾ ", " ▸ ", "     ", "[x]", "[ ]"]) (style : Style) :
    (Span.styled text style).OneByOne := by
  have hsigns : ∀ text ∈ [" ▾ ", " ▸ ", "     ", "[x]", "[ ]"].map String.toList,
      '\n' ∉ text ∧ Text.clusters text = text.map ([·]) ∧ (text.all fun c => Text.width [c] = 1) = true ∧
        Text.width text = text.length := by decide +kernel
  obtain ⟨hline, hclusters, hcolumn, hcolumns⟩ := hsigns text.toList (List.mem_map_of_mem h)
  exact ⟨hline, hclusters, fun c hc => of_decide_eq_true (List.all_eq_true.1 hcolumn c hc), hcolumns⟩

theorem oneByOne_signSpans (p : Palette) (row : ListRow) : ∀ span ∈ row.signSpans p, span.OneByOne := by
  obtain ⟨content, underCursor⟩ := row
  cases content with
  | group unfolded label summary =>
    cases unfolded <;> simp [signSpans, spans, oneByOne_styled]
  | table checked name size =>
    cases checked <;> simp [signSpans, spans, Span.raw, oneByOne_styled]

theorem symbols_signSpans (p : Palette) (row : ListRow) :
    ∃ margin style last, (StyledLine.ofSpans (row.signSpans p)).symbols = margin ++ ⟨[row.mark], style⟩ :: last ∧
      widthOf margin = row.markColumn ∧ (row.underCursor = true → style = p.cursorStyle) ∧
      (row.underCursor = false → style.background = none) := by
  have hsymbols := StyledLine.symbols_ofSpans_oneByOne (oneByOne_signSpans p row)
  have hspace : ∀ style, widthOf [⟨[' '], style⟩] = 1 := fun _ => (by decide : Text.width [' '] = 1)
  have hbracket : ∀ style, widthOf [⟨['['], style⟩] = 1 := fun _ => (by decide : Text.width ['['] = 1)
  obtain ⟨content, underCursor⟩ := row
  rw [hsymbols]
  cases content with
  | group unfolded label summary =>
    cases unfolded <;> cases underCursor <;>
      exact ⟨[⟨[' '], _⟩], _, [⟨[' '], _⟩], rfl, hspace _, by simp [Span.styled], by
        simp [Span.styled, Style.fg, Style.plain, Palette.unfoldedStyle, Style.inBold]⟩
  | table checked name size =>
    have hmargin : widthOf (List.replicate 5 ⟨[' '], .plain⟩) = 5 := by decide
    cases checked <;> cases underCursor <;>
      refine ⟨List.replicate 5 ⟨[' '], .plain⟩ ++ [⟨['['], _⟩], _, [⟨[']'], _⟩], rfl, ?_, by simp [Span.styled], by
        simp [Span.styled, Style.fg, Style.plain]⟩
    all_goals rw [Paragraph.widthOf_append, hmargin, hbracket, markColumn]

theorem flatMap_text_signSpans (p : Palette) (row : ListRow) : (row.signSpans p).flatMap (·.text) = row.sign := by
  obtain ⟨content, underCursor⟩ := row
  cases content with
  | group unfolded label summary => cases unfolded <;> rfl
  | table checked name size => cases checked <;> rfl

/-! ### Lines -/

/-- What is seen of a row that is drawn in an area of one row. Where its texts are drawn as they are counted, its symbols
are written in their styles, up to the one that does not fit, and can be read on a line that was blank. -/
structure ShownIn (p : Palette) (row : ListRow) (area : Rect) (before after : Canvas) : Prop where
  sign : row.sign.length ≤ area.width → rowText (after.stretch area.y area.x row.sign.length) = row.sign
  mark : row.sign.length ≤ area.width → ∃ style : Style,
    after.cell? (area.x + row.markColumn) area.y =
        (before.cell? (area.x + row.markColumn) area.y).map (Cell.write [row.mark] style) ∧
      (row.underCursor = true → style = p.cursorStyle) ∧ (row.underCursor = false → style.background = none)
  written : (∀ span ∈ row.spans p, span.DrawnAsCounted) →
    Written area.y before after (fitting area.width (StyledLine.ofSpans (row.spans p)).symbols) area.x
  text : (∀ span ∈ row.spans p, span.DrawnAsCounted) → before.BlankAt area.y area.x area.width →
    rowText (after.stretch area.y area.x area.width) =
      (fitting area.width (StyledLine.ofSpans (row.spans p)).symbols).flatMap (·.chars) ++
        List.replicate
          (area.width - widthOf (fitting area.width (StyledLine.ofSpans (row.spans p)).symbols)) ' '
  whole : (∀ span ∈ row.spans p, span.DrawnAsCounted) → before.BlankAt area.y area.x area.width →
    (StyledLine.ofSpans (row.spans p)).width ≤ area.width →
      rowText (after.stretch area.y area.x area.width) =
        (row.texts p).flatMap String.toList ++
          List.replicate (area.width - (StyledLine.ofSpans (row.spans p)).width) ' '

theorem ShownIn.congr {p : Palette} {row : ListRow} {area : Rect} {before after before' after' : Canvas}
    (h : row.ShownIn p area before after) (hbefore : ∀ x, before'.cell? x area.y = before.cell? x area.y)
    (hafter : ∀ x, after'.cell? x area.y = after.cell? x area.y) : row.ShownIn p area before' after' := by
  have hstretch : ∀ n, after'.stretch area.y area.x n = after.stretch area.y area.x n := fun n =>
    Canvas.stretch_congr fun i _ _ => hafter i
  have hblank : before'.BlankAt area.y area.x area.width → before.BlankAt area.y area.x area.width :=
    fun hb i hi hlt => by rw [← hb i hi hlt, Canvas.symbol?, Canvas.symbol?, hbefore]
  constructor
  · rw [hstretch]
    exact h.sign
  · rw [hafter, hbefore]
    exact h.mark
  · exact fun hcounted => (h.written hcounted).congr (fun i _ _ => hbefore i) fun i _ _ => hafter i
  · rw [hstretch]
    exact fun hcounted hb => h.text hcounted (hblank hb)
  · rw [hstretch]
    exact fun hcounted hb => h.whole hcounted (hblank hb)

theorem widthOf_signSpans (p : Palette) (row : ListRow) :
    widthOf (StyledLine.ofSpans (row.signSpans p)).symbols = row.sign.length := by
  have hone := row.oneByOne_signSpans p
  rw [StyledLine.widthOf_symbols fun span hs => (hone span hs).drawnAsCounted, StyledLine.width_ofSpans_oneByOne hone,
    flatMap_text_signSpans]

/-- The sign is written whatever stands behind it. -/
theorem sign_written (p : Palette) {row : ListRow} {area : Rect} (harea : area.isEmpty = false) (canvas : Canvas)
    (hfits : row.sign.length ≤ area.width) :
    Written area.y canvas ((StyledLine.ofSpans (row.spans p)).draw area canvas)
      (StyledLine.ofSpans (row.signSpans p)).symbols area.x := by
  obtain ⟨back, hspans⟩ := row.exists_spans_eq p
  have hcounted : ∀ span ∈ row.signSpans p, span.DrawnAsCounted := fun span hs =>
    (row.oneByOne_signSpans p span hs).drawnAsCounted
  rw [← row.widthOf_signSpans p, StyledLine.widthOf_symbols hcounted] at hfits
  rw [hspans]
  exact StyledLine.draw_written_append hcounted harea canvas hfits back

theorem shownIn_draw (p : Palette) (row : ListRow) {area : Rect} (harea : area.isEmpty = false) {canvas : Canvas}
    (hcells : ∀ x, area.x ≤ x → x < area.right → (canvas.cell? x area.y).isSome) :
    row.ShownIn p area canvas ((StyledLine.ofSpans (row.spans p)).draw area canvas) := by
  have hcounted : ∀ span ∈ row.signSpans p, span.DrawnAsCounted := fun span hs =>
    (row.oneByOne_signSpans p span hs).drawnAsCounted
  have hwidth := StyledLine.haveWidth_symbols hcounted
  have hcolumns := row.widthOf_signSpans p
  refine ⟨fun hfits => ?_, fun hfits => ?_, fun hall => (StyledLine.draw_written hall harea canvas).1,
    fun hall hb => ?_, fun hall hb hfits => ?_⟩
  · have htext := (sign_written p harea canvas hfits).rowText_eq hwidth fun i hi hlt =>
      hcells i hi (by rw [Rect.right]; omega)
    rwa [hcolumns, StyledLine.flatMap_chars_symbols hcounted, flatMap_text_signSpans] at htext
  · obtain ⟨margin, style, last, hsymbols, hcolumn, hstyle⟩ := row.symbols_signSpans p
    have hmark := sign_written p harea canvas hfits
    rw [hsymbols] at hmark hwidth
    have hcell := hmark.cell?_eq (hwidth _ (List.mem_append_right margin List.mem_cons_self))
    rw [hcolumn] at hcell
    exact ⟨style, hcell, hstyle⟩
  · exact StyledLine.rowText_draw hall harea canvas hb
  · have htext := StyledLine.rowText_draw hall harea canvas hb
    have hcount := StyledLine.widthOf_symbols hall
    rwa [fitting_eq_self (hcount ▸ hfits), hcount, StyledLine.flatMap_chars_symbols hall, ← flatMap_texts] at htext

end ListRow

/-! ### All rows -/

section Rows

variable (p : Palette) {area : Rect}

/-- Rows are drawn on as many lines as there are rows. -/
theorem drawRows_sameOutside (rows : List ListRow) (y : Nat) (canvas : Canvas) :
    Canvas.SameOutside { area with y, height := rows.length } canvas (drawRows p area y rows canvas) := by
  induction rows generalizing y canvas with
  | nil => exact .refl canvas
  | cons row rest ih =>
    have hrow : Rect.Inside { area with y, height := 1 } { area with y, height := rest.length + 1 } := by
      simp only [Rect.Inside, Rect.right, Rect.bottom]
      omega
    have hrest : Rect.Inside { area with y := y + 1, height := rest.length }
        { area with y, height := rest.length + 1 } := by
      simp only [Rect.Inside, Rect.right, Rect.bottom]
      omega
    rw [drawRows]
    exact ((StyledLine.draw_sameOutside _ canvas).mono hrow).trans ((ih (y + 1) _).mono hrest)

/-- Each row is seen on its own line. -/
theorem shownIn_drawRows (harea : area.isEmpty = false) {rows : List ListRow} {i y : Nat} {row : ListRow}
    (hrow : rows[i]? = some row) {canvas : Canvas}
    (hcells : ∀ x, area.x ≤ x → x < area.right → (canvas.cell? x (y + i)).isSome) :
    row.ShownIn p { area with y := y + i, height := 1 } canvas (drawRows p area y rows canvas) := by
  induction rows generalizing i y canvas with
  | nil => simp at hrow
  | cons first rest ih =>
    rw [drawRows]
    cases i with
    | zero =>
      obtain rfl : first = row := Option.some.inj hrow
      have hline : Rect.isEmpty { area with y, height := 1 } = false := by
        simp only [Rect.isEmpty, Bool.or_eq_false_iff] at harea ⊢
        exact ⟨harea.1, rfl⟩
      refine (first.shownIn_draw p hline hcells).congr (fun _ => rfl) fun x => ?_
      exact drawRows_sameOutside p rest (y + 1) _ x y (Rect.contains_eq_false_of_lt (Nat.lt_succ_self y))
    | succ i =>
      have hbelow : ∀ x, ((StyledLine.ofSpans (first.spans p)).draw { area with y, height := 1 } canvas).cell? x
          (y + 1 + i) = canvas.cell? x (y + 1 + i) := by
        intro x
        refine StyledLine.draw_sameOutside _ canvas x _ (Rect.contains_eq_false_of_le ?_)
        simp only [Rect.bottom]
        omega
      have hy : y + (i + 1) = y + 1 + i := by omega
      rw [hy] at hcells ⊢
      refine (ih hrow fun x hx hlt => ?_).congr (fun x => (hbelow x).symm) fun _ => rfl
      rw [hbelow]
      exact hcells x hx hlt

end Rows

/-! ### The window -/

/-- The rows that are drawn follow each other in the list, fit into the height, and hold the row under the cursor. -/
theorem exists_visibleRows_eq {α : Type} {height cursor : Nat} {rows : List α} (hheight : 0 < height)
    (hcursor : cursor < rows.length) :
    ∃ above below, rows = above ++ visibleRows height cursor rows ++ below ∧
      (visibleRows height cursor rows).length ≤ height ∧ above.length ≤ cursor ∧
      cursor < above.length + (visibleRows height cursor rows).length := by
  have hmin : min cursor (rows.length - 1) = cursor := by omega
  have hrows : visibleRows height cursor rows = (rows.drop (cursor + 1 - height)).take height := by
    rw [visibleRows, firstVisible, hmin]
  rw [hrows]
  refine ⟨rows.take (cursor + 1 - height), (rows.drop (cursor + 1 - height)).drop height, ?_, ?_, ?_, ?_⟩
  · rw [List.append_assoc, List.take_append_drop, List.take_append_drop]
  · exact List.length_take_le _ _
  · rw [List.length_take]
    omega
  · rw [List.length_take, List.length_take, List.length_drop]
    omega

end TableDesk
