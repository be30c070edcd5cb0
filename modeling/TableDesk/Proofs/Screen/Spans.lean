import TableDesk.Proofs.Screen.Drawing
import TableDesk.Proofs.Text.Cluster

/-!
Spans drawn side by side on a row. Whatever their texts are, they stay on their row, between the sides of their area.
A span whose symbols take the columns that are counted for it ends where the next one begins; the symbols of such
spans are written one after the other, up to the one that does not fit, and can be read there.
-/

namespace TableDesk.Screen

/-! ### The symbols of a span -/

namespace Span

variable {span : Span}

theorem symbols_of_not_mem (h : '\n' ∉ span.text) (base : Style) :
    span.symbols base = (Text.clusters span.text).map (⟨·, base.patch span.style⟩) := by
  have hall : (Text.clusters span.text).filter (· ≠ ['\n']) = Text.clusters span.text := by
    refine List.filter_eq_self.2 fun cluster hc => ?_
    rw [decide_eq_true_eq]
    rintro rfl
    exact Text.not_mem_clusters_of_not_mem h hc
  rw [symbols, hall]

theorem widthOf_symbols (h : '\n' ∉ span.text) (base : Style) :
    Paragraph.widthOf (span.symbols base) = Text.clusterColumns span.text := by
  rw [symbols_of_not_mem h, Text.clusterColumns]
  induction Text.clusters span.text with
  | nil => rfl
  | cons cluster rest ih => rw [List.map_cons, Paragraph.widthOf_cons, ih, Text.sumWidths_cons]

end Span

theorem Paragraph.widthOf_append (symbols more : List Symbol) :
    widthOf (symbols ++ more) = widthOf symbols + widthOf more := by
  induction symbols with
  | nil => exact (Nat.zero_add _).symm
  | cons s rest ih => rw [List.cons_append, widthOf_cons, ih, widthOf_cons, Nat.add_assoc]

/-! ### Outside of an area -/

theorem Rect.contains_eq_false_of_lt {area : Rect} {x y : Nat} (h : y < area.y) : area.contains x y = false :=
  Bool.eq_false_iff.2 fun hin => absurd (Rect.contains_iff.1 hin).2.1 (Nat.not_le_of_lt h)

theorem Rect.contains_eq_false_of_le {area : Rect} {x y : Nat} (h : area.bottom ≤ y) : area.contains x y = false :=
  Bool.eq_false_iff.2 fun hin => absurd (Rect.contains_iff.1 hin).2.2 (Nat.not_lt_of_le h)

namespace Canvas

/-- The cells outside of an area are the same on both canvases. -/
def SameOutside (area : Rect) (before after : Canvas) : Prop :=
  ∀ x y, area.contains x y = false → after.cell? x y = before.cell? x y

variable {area : Rect}

theorem SameOutside.refl (canvas : Canvas) : SameOutside area canvas canvas := fun _ _ _ => rfl

theorem SameOutside.trans {first second third : Canvas} (h : SameOutside area first second)
    (h' : SameOutside area second third) : SameOutside area first third :=
  fun x y hout => (h' x y hout).trans (h x y hout)

theorem SameOutside.mono {inner : Rect} {before after : Canvas} (h : SameOutside inner before after)
    (hinside : inner.Inside area) : SameOutside area before after := by
  intro x y hout
  refine h x y (Bool.eq_false_iff.2 fun hin => ?_)
  rw [hinside.contains hin] at hout
  cases hout

theorem sameOutside_modify {x y : Nat} (h : area.contains x y = true) (f : Cell → Cell) (canvas : Canvas) :
    SameOutside area canvas (canvas.modify x y f) := by
  intro x' y' hout
  rw [cell?_modify, if_neg]
  rintro ⟨rfl, rfl⟩
  rw [h] at hout
  cases hout

theorem sameOutside_modifyRow {x y n : Nat} (h : ∀ x', x ≤ x' → x' < x + n → area.contains x' y = true)
    (f : Cell → Cell) (canvas : Canvas) : SameOutside area canvas (modifyRow x y f n canvas) := by
  intro x' y' hout
  rw [cell?_modifyRow, if_neg]
  rintro ⟨rfl, hx, hn⟩
  rw [h x' hx hn] at hout
  cases hout

theorem cell?_restyle_plain (canvas : Canvas) (area : Rect) (x y : Nat) :
    (canvas.restyle area .plain).cell? x y = canvas.cell? x y := by
  have hplain : Cell.restyle .plain = id := by
    funext cell
    simp [Cell.restyle, Style.plain]
  rw [restyle, cell?_modifyRect, hplain, Option.map_id_apply, ite_self]

theorem sameOutside_restyle (area : Rect) (style : Style) (canvas : Canvas) :
    SameOutside area canvas (canvas.restyle area style) := by
  intro x y hout
  rw [restyle, cell?_modifyRect, hout]
  rfl

end Canvas

open Canvas

theorem Rect.indent_inside (area : Rect) (columns : Nat) : (area.indent columns).Inside area := by
  simp only [Rect.Inside, Rect.indent, Rect.right, Rect.bottom]
  omega

/-- Drawing from a column of the area on stays in the area. The first symbol is drawn in the first column. -/
theorem Span.drawSymbols_sameOutside {area : Rect} (harea : area.isEmpty = false) (symbols : List Symbol)
    {first : Bool} {x : Nat} (hx : area.x ≤ x) (hfirst : first = true → x = area.x) (canvas : Canvas) :
    SameOutside area canvas (drawSymbols area.x area.right area.y symbols first x canvas) := by
  have hsides : 0 < area.width ∧ 0 < area.height := by
    simpa [Rect.isEmpty, Nat.pos_iff_ne_zero] using harea
  have hin : ∀ x', area.x ≤ x' → x' < area.right → area.contains x' area.y = true := fun x' hl hr =>
    Rect.contains_iff.2 ⟨⟨hl, hr⟩, Nat.le_refl _, Nat.lt_add_of_pos_right hsides.2⟩
  have hleft : area.x < area.right := Nat.lt_add_of_pos_right hsides.1
  induction symbols generalizing first x canvas with
  | nil => exact .refl canvas
  | cons s rest ih =>
    rw [drawSymbols]
    split
    · exact .refl canvas
    next hroom =>
      refine .trans ?_ (ih (by omega) (by simp) _)
      refine .trans ?_ (sameOutside_modifyRow (fun x' _ _ => hin x' (by omega) (by omega)) _ _)
      split
      next hf => exact sameOutside_modify (hin x hx (by rw [hfirst hf]; exact hleft)) _ canvas
      next =>
        split
        next he => exact sameOutside_modify (hin x hx (he ▸ hleft)) _ canvas
        next hne =>
          split
          · exact sameOutside_modify (hin _ (by omega) (by omega)) _ canvas
          · exact sameOutside_modify (hin x hx (by omega)) _ canvas

theorem Span.draw_sameOutside (span : Span) (area : Rect) (canvas : Canvas) :
    SameOutside area canvas (span.draw area canvas) := by
  unfold draw
  split
  · exact .refl canvas
  next harea => exact drawSymbols_sameOutside (by simpa using harea) _ (Nat.le_refl _) (fun _ => rfl) canvas

namespace StyledLine

theorem drawSpans_sameOutside (spans : List Span) (area : Rect) (canvas : Canvas) :
    SameOutside area canvas (drawSpans spans area canvas) := by
  induction spans generalizing area canvas with
  | nil => exact .refl canvas
  | cons span rest ih =>
    rw [drawSpans]
    split
    · exact ih area canvas
    · split
      · exact .refl canvas
      · exact (span.draw_sameOutside area canvas).trans ((ih _ _).mono (area.indent_inside span.width))

theorem draw_sameOutside (line : StyledLine) {area : Rect} (canvas : Canvas) :
    SameOutside area canvas (line.draw area canvas) := by
  unfold draw
  split
  · exact .refl canvas
  next hne =>
    have hrow : Rect.Inside { area with height := 1 } area := by
      simp only [Rect.isEmpty, Bool.or_eq_true, decide_eq_true_eq, not_or] at hne
      simp only [Rect.Inside, Rect.right, Rect.bottom]
      omega
    exact ((sameOutside_restyle _ line.style canvas).trans (drawSpans_sameOutside line.spans _ _)).mono hrow

end StyledLine

theorem Canvas.stretch_congr {before after : Canvas} {y x n : Nat}
    (h : ∀ i, x ≤ i → i < x + n → after.cell? i y = before.cell? i y) :
    after.stretch y x n = before.stretch y x n := by
  induction n generalizing x with
  | zero => rfl
  | succ n ih =>
    rw [stretch, stretch, h x (Nat.le_refl x) (by omega), ih fun i hi hlt => h i (by omega) (by omega)]

/-! ### Symbols side by side -/

/-- The symbols that fit into some columns, up to the first one that does not. -/
def fitting : (room : Nat) → List Symbol → List Symbol
  | _, [] => []
  | room, s :: rest =>
    if room < Text.width s.chars then [] else s :: fitting (room - Text.width s.chars) rest

/-- From a column of the row `y` on, the symbols are written over the cells of the canvas before, and the cells behind
a wide symbol are blank. -/
def Written (y : Nat) (before after : Canvas) : List Symbol → (x : Nat) → Prop
  | [], _ => True
  | s :: rest, x =>
    (∀ i, x ≤ i → i < x + Text.width s.chars →
      after.cell? i y = (before.cell? i y).map fun cell => if i = x then cell.write s.chars s.style else .blank) ∧
      Written y before after rest (x + Text.width s.chars)

/-- No symbol is without a width. -/
def HaveWidth (symbols : List Symbol) : Prop := ∀ s ∈ symbols, Text.width s.chars ≠ 0

open Paragraph (widthOf widthOf_cons)

section Fitting

variable {room : Nat} {symbols more : List Symbol}

theorem fitting_zero (h : HaveWidth symbols) : fitting 0 symbols = [] := by
  cases symbols with
  | nil => rfl
  | cons s rest => rw [fitting, if_pos (Nat.pos_of_ne_zero (h s List.mem_cons_self))]

theorem fitting_eq_self (h : widthOf symbols ≤ room) : fitting room symbols = symbols := by
  induction symbols generalizing room with
  | nil => rfl
  | cons s rest ih =>
    rw [widthOf_cons] at h
    rw [fitting, if_neg (by omega), ih (by omega)]

/-- What stands behind a symbol that does not fit does not fit either. -/
theorem fitting_append (h : HaveWidth more) :
    fitting room (symbols ++ more) = fitting room symbols ++ fitting (room - widthOf symbols) more := by
  induction symbols generalizing room with
  | nil => rfl
  | cons s rest ih =>
    rw [widthOf_cons, List.cons_append, fitting, fitting]
    split
    next hroom => rw [Nat.sub_eq_zero_of_le (by omega), fitting_zero h, List.nil_append]
    next => rw [ih, Nat.sub_sub, List.cons_append]

theorem isPrefix_fitting (room : Nat) (symbols : List Symbol) : fitting room symbols <+: symbols := by
  induction symbols generalizing room with
  | nil => exact List.prefix_rfl
  | cons s rest ih =>
    rw [fitting]
    split
    · exact List.nil_prefix
    · exact List.prefix_cons_iff.2 (.inr ⟨_, rfl, ih _⟩)

theorem widthOf_fitting_le (room : Nat) (symbols : List Symbol) : widthOf (fitting room symbols) ≤ room := by
  induction symbols generalizing room with
  | nil => exact Nat.zero_le room
  | cons s rest ih =>
    rw [fitting]
    split
    · exact Nat.zero_le room
    · have := ih (room - Text.width s.chars)
      rw [widthOf_cons]
      omega

end Fitting

namespace Written

variable {y x : Nat} {before after : Canvas} {symbols more : List Symbol}

/-- Only the columns of the symbols count. -/
theorem congr {before' after' : Canvas} (h : Written y before after symbols x)
    (hbefore : ∀ i, x ≤ i → i < x + widthOf symbols → before'.cell? i y = before.cell? i y)
    (hafter : ∀ i, x ≤ i → i < x + widthOf symbols → after'.cell? i y = after.cell? i y) :
    Written y before' after' symbols x := by
  induction symbols generalizing x with
  | nil => trivial
  | cons s rest ih =>
    rw [widthOf_cons] at hbefore hafter
    refine ⟨fun i hi hlt => ?_, ih h.2 (fun i hi hlt => ?_) (fun i hi hlt => ?_)⟩
    · rw [hafter i hi (by omega), hbefore i hi (by omega), h.1 i hi hlt]
    · exact hbefore i (by omega) (by omega)
    · exact hafter i (by omega) (by omega)

theorem append (h : Written y before after symbols x) (hmore : Written y before after more (x + widthOf symbols)) :
    Written y before after (symbols ++ more) x := by
  induction symbols generalizing x with
  | nil => exact hmore
  | cons s rest ih =>
    rw [widthOf_cons, ← Nat.add_assoc] at hmore
    exact ⟨h.1, ih h.2 hmore⟩

/-- What is written can be read. -/
theorem textFrom (h : Written y before after symbols x) (hwidth : HaveWidth symbols)
    (hcells : ∀ i, x ≤ i → i < x + widthOf symbols → (before.cell? i y).isSome) (n : Nat) :
    textFrom 0 (after.stretch y x (widthOf symbols + n)) =
      symbols.flatMap (·.chars) ++ Screen.textFrom 0 (after.stretch y (x + widthOf symbols) n) := by
  induction symbols generalizing x with
  | nil => rw [widthOf, List.foldr_nil, Nat.zero_add, Nat.add_zero]; rfl
  | cons s rest ih =>
    obtain ⟨hs, hrest⟩ := h
    rw [widthOf_cons] at hcells ⊢
    obtain ⟨w, hw⟩ := Nat.exists_eq_succ_of_ne_zero (hwidth s List.mem_cons_self)
    obtain ⟨cell, hcell⟩ := Option.isSome_iff_exists.1 (hcells x (Nat.le_refl x) (by omega))
    have hfirst : after.cell? x y = some (cell.write s.chars s.style) := by
      rw [hs x (Nat.le_refl x) (by omega), hcell, Option.map_some, if_pos rfl]
    have hhidden : ∀ i, x + 1 ≤ i → i < x + 1 + w → (after.symbol? i y).isSome := by
      intro i hi hlt
      rw [symbol?, Option.isSome_map, hs i (by omega) (by omega), Option.isSome_map]
      exact hcells i (by omega) (by omega)
    have hmore := ih hrest (fun s' hs' => hwidth s' (List.mem_cons_of_mem s hs'))
      fun i hi hlt => hcells i (by omega) (by omega)
    have hsymbol : (cell.write s.chars s.style).symbol = s.chars := rfl
    have hcount : Text.width s.chars + widthOf rest + n = w + (widthOf rest + n) + 1 := by omega
    rw [hcount, stretch_succ hfirst, textFrom_zero_cons, hsymbol, hw, Nat.succ_sub_one,
      textFrom_stretch_hidden w _ hhidden, Nat.add_assoc x 1 w, Nat.add_comm 1 w, ← Nat.succ_eq_add_one, ← hw, hmore,
      List.flatMap_cons, List.append_assoc, Nat.add_assoc]

theorem rowText_eq (h : Written y before after symbols x) (hwidth : HaveWidth symbols)
    (hcells : ∀ i, x ≤ i → i < x + widthOf symbols → (before.cell? i y).isSome) :
    rowText (after.stretch y x (widthOf symbols)) = symbols.flatMap (·.chars) := by
  have htext := h.textFrom hwidth hcells 0
  rwa [Nat.add_zero, stretch, textFrom_nil, List.append_nil] at htext

/-- The cell of a symbol is that of the canvas before, with the symbol in its style. -/
theorem cell?_eq {s : Symbol} (h : Written y before after (symbols ++ s :: more) x) (hs : Text.width s.chars ≠ 0) :
    after.cell? (x + widthOf symbols) y =
      (before.cell? (x + widthOf symbols) y).map (Cell.write s.chars s.style) := by
  induction symbols generalizing x with
  | nil =>
    have hx : x + widthOf [] = x := rfl
    rw [hx, h.1 x (Nat.le_refl x) (by omega)]
    simp
  | cons first rest ih =>
    rw [widthOf_cons, ← Nat.add_assoc]
    exact ih h.2

end Written

/-! ### What is drawn of spans -/

/-- A symbol on a canvas, with nothing to be seen in the cells behind it. -/
def Canvas.writeSymbol (canvas : Canvas) (x y : Nat) (s : Symbol) : Canvas :=
  Span.hide y (x + 1) (x + Text.width s.chars) (canvas.modify x y (Cell.write s.chars s.style))

theorem Canvas.cell?_writeSymbol (canvas : Canvas) {x y : Nat} {s : Symbol} (hw : Text.width s.chars ≠ 0) (i : Nat) :
    (canvas.writeSymbol x y s).cell? i y =
      if x ≤ i ∧ i < x + Text.width s.chars then
        (canvas.cell? i y).map fun cell => if i = x then cell.write s.chars s.style else .blank
      else canvas.cell? i y := by
  rw [writeSymbol, Span.hide, cell?_modifyRow, cell?_modify]
  by_cases hx : i = x
  · subst hx
    rw [if_neg (by omega), if_pos ⟨rfl, rfl⟩, if_pos (by omega)]
    simp
  · rw [if_neg (c := x = i ∧ y = y) (by omega)]
    by_cases hi : x ≤ i ∧ i < x + Text.width s.chars
    · rw [if_pos (by omega), if_pos hi]
      simp [hx]
    · rw [if_neg (by omega), if_neg hi]

namespace Span

/-- A symbol with a width is written, unless it does not fit. -/
theorem drawSymbols_cons {left right y x : Nat} {s : Symbol} (hw : Text.width s.chars ≠ 0) {first : Bool}
    (hx : first = true ∨ left < x) (rest : List Symbol) (canvas : Canvas) :
    drawSymbols left right y (s :: rest) first x canvas =
      if right < x + Text.width s.chars then canvas
      else drawSymbols left right y rest false (x + Text.width s.chars) (canvas.writeSymbol x y s) := by
  rw [drawSymbols]
  split
  · rfl
  · rcases hx with rfl | hx
    · rfl
    · cases first
      · rw [if_neg Bool.false_ne_true, if_neg (Nat.ne_of_gt hx)]
        rfl
      · rfl

/-- From a column on, the symbols that fit are written, and no other column changes. -/
theorem drawSymbols_written {left right y x : Nat} {symbols : List Symbol} (hwidth : HaveWidth symbols)
    (hleft : left ≤ x) {first : Bool} (hx : first = true ∨ left < x) (canvas : Canvas) :
    Written y canvas (drawSymbols left right y symbols first x canvas) (fitting (right - x) symbols) x ∧
      ∀ i, i < x ∨ x + widthOf (fitting (right - x) symbols) ≤ i →
        (drawSymbols left right y symbols first x canvas).cell? i y = canvas.cell? i y := by
  induction symbols generalizing x first canvas with
  | nil => exact ⟨trivial, fun _ _ => rfl⟩
  | cons s rest ih =>
    have hw := hwidth s List.mem_cons_self
    rw [drawSymbols_cons hw hx, fitting]
    by_cases hroom : right < x + Text.width s.chars
    · rw [if_pos hroom, if_pos (by omega)]
      exact ⟨trivial, fun _ _ => rfl⟩
    · rw [if_neg hroom, if_neg (by omega), Nat.sub_sub, widthOf_cons]
      have hnext : false = true ∨ left < x + Text.width s.chars := .inr (by omega)
      obtain ⟨hrest, hsame⟩ := ih (fun s' hs' => hwidth s' (List.mem_cons_of_mem s hs')) (by omega) hnext
        (canvas.writeSymbol x y s)
      refine ⟨⟨fun i hi hlt => ?_, hrest.congr (fun i hi _ => ?_) fun _ _ _ => rfl⟩, fun i hi => ?_⟩
      · rw [hsame i (.inl hlt), cell?_writeSymbol canvas hw, if_pos ⟨hi, hlt⟩]
      · rw [cell?_writeSymbol canvas hw, if_neg (by omega)]
      · rw [hsame i (by omega), cell?_writeSymbol canvas hw, if_neg (by omega)]

end Span

/-- Drawn cluster by cluster, a text takes the columns that are counted for it, and no cluster goes without. -/
structure Span.DrawnAsCounted (span : Span) : Prop where
  lineFeed : '\n' ∉ span.text
  clusters : ∀ cluster ∈ Text.clusters span.text, Text.width cluster ≠ 0
  columns : Text.clusterColumns span.text = span.width

instance (span : Span) : Decidable span.DrawnAsCounted :=
  decidable_of_iff
    ('\n' ∉ span.text ∧ (∀ cluster ∈ Text.clusters span.text, Text.width cluster ≠ 0) ∧
      Text.clusterColumns span.text = span.width)
    ⟨fun h => ⟨h.1, h.2.1, h.2.2⟩, fun h => ⟨h.lineFeed, h.clusters, h.columns⟩⟩

namespace Span.DrawnAsCounted

variable {span : Span} (h : span.DrawnAsCounted) (base : Style)
include h

theorem haveWidth : HaveWidth (span.symbols base) := by
  rw [symbols_of_not_mem h.lineFeed]
  intro s hs
  obtain ⟨cluster, hc, rfl⟩ := List.mem_map.1 hs
  exact h.clusters cluster hc

theorem widthOf_eq : widthOf (span.symbols base) = span.width := (widthOf_symbols h.lineFeed base).trans h.columns

theorem symbols_eq_nil (hnone : span.width = 0) : span.symbols base = [] := by
  have hcount := h.widthOf_eq base
  have hwidth := h.haveWidth base
  cases hs : span.symbols base with
  | nil => rfl
  | cons s rest =>
    have := hwidth s (hs ▸ List.mem_cons_self)
    rw [hs, widthOf_cons, hnone] at hcount
    omega

theorem flatMap_chars : (span.symbols base).flatMap (·.chars) = span.text := by
  rw [symbols_of_not_mem h.lineFeed, List.flatMap_map, List.flatMap_id', Text.flatten_clusters]

/-- From the left side of an area on, the symbols that fit are written, and no other column of the row changes. -/
theorem draw_written {area : Rect} (hheight : area.height ≠ 0) (canvas : Canvas) :
    Written area.y canvas (span.draw area canvas) (fitting area.width (span.symbols .plain)) area.x ∧
      ∀ i, i < area.x ∨ area.x + widthOf (fitting area.width (span.symbols .plain)) ≤ i →
        (span.draw area canvas).cell? i area.y = canvas.cell? i area.y := by
  rw [Span.draw]
  split
  next hempty =>
    have hzero : area.width = 0 := by simpa [Rect.isEmpty, hheight] using hempty
    rw [hzero, fitting_zero (h.haveWidth .plain)]
    exact ⟨trivial, fun _ _ => rfl⟩
  next =>
    have hfirst : true = true ∨ area.x < area.x := .inl rfl
    have hroom : area.right - area.x = area.width := Nat.add_sub_cancel_left ..
    rw [← hroom]
    exact drawSymbols_written (h.haveWidth .plain) (Nat.le_refl area.x) hfirst canvas

end Span.DrawnAsCounted

/-- Each character of a span is a symbol of its own, in a column of its own. -/
structure Span.OneByOne (span : Span) : Prop where
  lineFeed : '\n' ∉ span.text
  clusters : Text.clusters span.text = span.text.map ([·])
  column : ∀ c ∈ span.text, Text.width [c] = 1
  columns : span.width = span.text.length

theorem sumWidths_singletons {text : List Char} (h : ∀ c ∈ text, Text.width [c] = 1) :
    Text.sumWidths (text.map ([·])) = text.length := by
  induction text with
  | nil => rfl
  | cons c rest ih =>
    rw [List.map_cons, Text.sumWidths_cons, h c List.mem_cons_self,
      ih fun other ho => h other (List.mem_cons_of_mem c ho), List.length_cons, Nat.add_comm]

namespace Span.OneByOne

variable {span : Span} (h : span.OneByOne)
include h

theorem drawnAsCounted : span.DrawnAsCounted where
  lineFeed := h.lineFeed
  clusters := by
    rw [h.clusters, List.forall_mem_map]
    intro c hc
    rw [h.column c hc]
    exact Nat.one_ne_zero
  columns := by rw [Text.clusterColumns, h.clusters, sumWidths_singletons h.column, h.columns]

theorem symbols_eq : span.symbols .plain = span.text.map fun c => ⟨[c], span.style⟩ := by
  rw [symbols_of_not_mem h.lineFeed, h.clusters, List.map_map, Style.plain_patch]
  rfl

end Span.OneByOne

theorem Rect.indent_zero (area : Rect) : area.indent 0 = area := by
  simp [indent, right]

theorem Rect.indent_indent (area : Rect) (m n : Nat) : (area.indent m).indent n = area.indent (m + n) := by
  simp only [indent, right, Rect.mk.injEq, true_and, and_true]
  omega

namespace StyledLine

theorem symbols_ofSpans_oneByOne {spans : List Span} (h : ∀ span ∈ spans, span.OneByOne) :
    (ofSpans spans).symbols = spans.flatMap fun span => span.text.map fun c => ⟨[c], span.style⟩ := by
  induction spans with
  | nil => rfl
  | cons span rest ih =>
    have hspan := (h span List.mem_cons_self).symbols_eq
    have hrest := ih fun other ho => h other (List.mem_cons_of_mem span ho)
    rw [List.flatMap_cons, ← hspan, ← hrest]
    rfl

theorem width_ofSpans_oneByOne {spans : List Span} (h : ∀ span ∈ spans, span.OneByOne) :
    (ofSpans spans).width = (spans.flatMap (·.text)).length := by
  induction spans with
  | nil => rfl
  | cons span rest ih =>
    have hrest := ih fun other ho => h other (List.mem_cons_of_mem span ho)
    rw [List.flatMap_cons, List.length_append, ← hrest, ← (h span List.mem_cons_self).columns]
    rfl

theorem drawSpans_of_isEmpty {area : Rect} (harea : area.isEmpty = true) (spans : List Span) (canvas : Canvas) :
    drawSpans spans area canvas = canvas := by
  induction spans with
  | nil => rfl
  | cons span rest ih =>
    rw [drawSpans, ih, if_pos harea]
    split <;> rfl

/-- Behind a span that is drawn as counted, the next one begins. -/
theorem drawSpans_cons {span : Span} (h : span.DrawnAsCounted) (rest : List Span) (area : Rect) (canvas : Canvas) :
    drawSpans (span :: rest) area canvas = drawSpans rest (area.indent span.width) (span.draw area canvas) := by
  rw [drawSpans]
  by_cases hwidth : span.width = 0
  · have hdraw : span.draw area canvas = canvas := by
      rw [Span.draw, h.symbols_eq_nil .plain hwidth]
      split <;> rfl
    rw [if_pos hwidth, hwidth, area.indent_zero, hdraw]
  · rw [if_neg hwidth]
    split
    next hempty =>
      have hbehind : (area.indent span.width).isEmpty = true := by
        have hsides : area.width = 0 ∨ area.height = 0 := by simpa [Rect.isEmpty] using hempty
        rcases hsides with hzero | hzero <;> simp [Rect.isEmpty, Rect.indent, hzero]
      rw [drawSpans_of_isEmpty hbehind, Span.draw, if_pos hempty]
    · rfl

section Counted

variable {spans : List Span} (h : ∀ span ∈ spans, span.DrawnAsCounted)
include h

theorem haveWidth_symbols : HaveWidth (ofSpans spans).symbols := by
  intro s hs
  obtain ⟨span, hspan, hs⟩ := List.mem_flatMap.1 hs
  exact (h span hspan).haveWidth .plain s hs

theorem widthOf_symbols : widthOf (ofSpans spans).symbols = (ofSpans spans).width := by
  induction spans with
  | nil => rfl
  | cons span rest ih =>
    have hrest := ih fun other ho => h other (List.mem_cons_of_mem span ho)
    have hspan := (h span List.mem_cons_self).widthOf_eq .plain
    calc widthOf (ofSpans (span :: rest)).symbols
        = widthOf (span.symbols .plain) + widthOf (ofSpans rest).symbols := Paragraph.widthOf_append _ _
      _ = span.width + (ofSpans rest).width := by rw [hspan, hrest]

theorem flatMap_chars_symbols : (ofSpans spans).symbols.flatMap (·.chars) = spans.flatMap (·.text) := by
  induction spans with
  | nil => rfl
  | cons span rest ih =>
    have hrest := ih fun other ho => h other (List.mem_cons_of_mem span ho)
    have hspan := (h span List.mem_cons_self).flatMap_chars .plain
    calc (ofSpans (span :: rest)).symbols.flatMap (·.chars)
        = (span.symbols .plain).flatMap (·.chars) ++ (ofSpans rest).symbols.flatMap (·.chars) := List.flatMap_append
      _ = span.text ++ rest.flatMap (·.text) := by rw [hspan, hrest]

theorem drawSpans_append (back : List Span) (area : Rect) (canvas : Canvas) :
    drawSpans (spans ++ back) area canvas =
      drawSpans back (area.indent (ofSpans spans).width) (drawSpans spans area canvas) := by
  induction spans generalizing area canvas with
  | nil => exact (congrArg (drawSpans back · canvas) area.indent_zero).symm
  | cons span rest ih =>
    have hspan := h span List.mem_cons_self
    rw [List.cons_append, drawSpans_cons hspan, ih fun other ho => h other (List.mem_cons_of_mem span ho),
      Rect.indent_indent, drawSpans_cons hspan]
    rfl

/-- From the left side of an area on, the symbols of spans are written one after the other, up to the one that does
not fit. No other column of the row changes. -/
theorem drawSpans_written {area : Rect} (hheight : area.height ≠ 0) (canvas : Canvas) :
    Written area.y canvas (drawSpans spans area canvas) (fitting area.width (ofSpans spans).symbols) area.x ∧
      ∀ i, i < area.x ∨ area.x + widthOf (fitting area.width (ofSpans spans).symbols) ≤ i →
        (drawSpans spans area canvas).cell? i area.y = canvas.cell? i area.y := by
  induction spans generalizing area canvas with
  | nil => exact ⟨trivial, fun _ _ => rfl⟩
  | cons span rest ih =>
    have hspan := h span List.mem_cons_self
    have hrest : ∀ other ∈ rest, other.DrawnAsCounted := fun other ho => h other (List.mem_cons_of_mem span ho)
    have hsymbols : (ofSpans (span :: rest)).symbols = span.symbols .plain ++ (ofSpans rest).symbols := rfl
    have hcount := hspan.widthOf_eq .plain
    obtain ⟨hwritten, hsame⟩ := hspan.draw_written hheight canvas
    have hindent : (area.indent span.width).height ≠ 0 := hheight
    obtain ⟨hmore, hbeside⟩ := ih hrest hindent (span.draw area canvas)
    rw [drawSpans_cons hspan, hsymbols, fitting_append (haveWidth_symbols hrest), hcount, Paragraph.widthOf_append]
    have hroom : (area.indent span.width).width = area.width - span.width := rfl
    rw [hroom] at hmore hbeside
    by_cases hfits : span.width ≤ area.width
    · have hx : (area.indent span.width).x = area.x + span.width := Nat.min_eq_left (Nat.add_le_add_left hfits area.x)
      rw [fitting_eq_self (hcount ▸ hfits)] at hwritten hsame ⊢
      rw [hcount] at hsame ⊢
      rw [hx] at hmore hbeside
      have hfirst := hwritten.congr (fun _ _ _ => rfl) fun i _ hlt => hbeside i (.inl (hcount ▸ hlt))
      have hbehind := hmore.congr (fun i hi _ => (hsame i (.inr hi)).symm) fun _ _ _ => rfl
      exact ⟨hfirst.append (hcount.symm ▸ hbehind),
        fun i hi => (hbeside i (by omega)).trans (hsame i (by omega))⟩
    · have hnone : fitting (area.width - span.width) (ofSpans rest).symbols = [] := by
        rw [Nat.sub_eq_zero_of_le (by omega), fitting_zero (haveWidth_symbols hrest)]
      rw [hnone] at hbeside ⊢
      have hall : ∀ i, (drawSpans rest (area.indent span.width) (span.draw area canvas)).cell? i area.y =
          (span.draw area canvas).cell? i area.y := fun i => hbeside i (Nat.lt_or_ge i _)
      rw [List.append_nil]
      exact ⟨hwritten.congr (fun _ _ _ => rfl) fun i _ _ => hall i, fun i hi => (hall i).trans (hsame i hi)⟩

end Counted

/-! ### What is drawn of a line -/

theorem drawSpans_of_width_eq_zero {spans : List Span} (h : (ofSpans spans).width = 0) (area : Rect) (canvas : Canvas) :
    drawSpans spans area canvas = canvas := by
  induction spans with
  | nil => rfl
  | cons span rest ih =>
    have hsum : span.width + (ofSpans rest).width = 0 := h
    rw [drawSpans, if_pos (by omega), ih (by omega)]

/-- A line without a style of its own is drawn span by span. -/
theorem cell?_draw_ofSpans (spans : List Span) {area : Rect} (harea : area.isEmpty = false) (canvas : Canvas)
    (x y : Nat) :
    ((ofSpans spans).draw area canvas).cell? x y =
      (drawSpans spans { area with height := 1 } (canvas.restyle { area with height := 1 } .plain)).cell? x y := by
  by_cases hnone : (ofSpans spans).width = 0
  · rw [drawSpans_of_width_eq_zero hnone, cell?_restyle_plain, draw, if_pos (by simp [hnone])]
  · rw [draw, if_neg (by simp [hnone, harea])]
    rfl

section Line

variable {spans : List Span} (h : ∀ span ∈ spans, span.DrawnAsCounted) {area : Rect} (harea : area.isEmpty = false)
  (canvas : Canvas)
include h harea

/-- The symbols of a line are written one after the other, up to the one that does not fit. No other column of the row
changes. -/
theorem draw_written :
    Written area.y canvas ((ofSpans spans).draw area canvas) (fitting area.width (ofSpans spans).symbols) area.x ∧
      ∀ i, i < area.x ∨ area.x + widthOf (fitting area.width (ofSpans spans).symbols) ≤ i →
        ((ofSpans spans).draw area canvas).cell? i area.y = canvas.cell? i area.y := by
  have hrow : ({ area with height := 1 } : Rect).height ≠ 0 := Nat.one_ne_zero
  obtain ⟨hwritten, hsame⟩ := drawSpans_written h hrow (canvas.restyle { area with height := 1 } .plain)
  refine ⟨hwritten.congr (fun i _ _ => ?_) fun i _ _ => cell?_draw_ofSpans spans harea canvas i area.y,
    fun i hi => ?_⟩
  · rw [cell?_restyle_plain]
  · rw [cell?_draw_ofSpans spans harea, hsame i hi, cell?_restyle_plain]

/-- Spans at the start of a line are written whatever stands behind them, as long as they fit themselves. -/
theorem draw_written_append (hfits : (ofSpans spans).width ≤ area.width) (back : List Span) :
    Written area.y canvas ((ofSpans (spans ++ back)).draw area canvas) (ofSpans spans).symbols area.x := by
  have hrow : ({ area with height := 1 } : Rect).height ≠ 0 := Nat.one_ne_zero
  obtain ⟨hwritten, -⟩ := drawSpans_written h hrow (canvas.restyle { area with height := 1 } .plain)
  have hcount := widthOf_symbols h
  rw [fitting_eq_self (hcount ▸ hfits)] at hwritten
  refine hwritten.congr (fun i _ _ => ?_) fun i hi hlt => ?_
  · rw [cell?_restyle_plain]
  · rw [cell?_draw_ofSpans _ harea, drawSpans_append h]
    refine drawSpans_sameOutside back _ _ i area.y (Bool.eq_false_iff.2 fun hin => ?_)
    have hleft : min (area.x + (ofSpans spans).width) (area.x + area.width) ≤ i := (Rect.contains_iff.1 hin).1.1
    have hright : i < area.x + (ofSpans spans).width := hcount ▸ hlt
    omega

/-- On blank cells, the symbols that fit can be read, with blanks behind them. -/
theorem rowText_draw (hblank : canvas.BlankAt area.y area.x area.width) :
    rowText (((ofSpans spans).draw area canvas).stretch area.y area.x area.width) =
      (fitting area.width (ofSpans spans).symbols).flatMap (·.chars) ++
        List.replicate (area.width - widthOf (fitting area.width (ofSpans spans).symbols)) ' ' := by
  obtain ⟨hwritten, hsame⟩ := draw_written h harea canvas
  have hwidth : HaveWidth (fitting area.width (ofSpans spans).symbols) := fun s hs =>
    haveWidth_symbols h s ((isPrefix_fitting _ _).subset hs)
  have hle := widthOf_fitting_le area.width (ofSpans spans).symbols
  generalize fitting area.width (ofSpans spans).symbols = symbols at *
  obtain ⟨n, hn⟩ := Nat.exists_eq_add_of_le hle
  have hcells : ∀ i, area.x ≤ i → i < area.x + widthOf symbols → (canvas.cell? i area.y).isSome := by
    intro i hi hlt
    obtain ⟨cell, hcell, -⟩ := exists_cell_of_symbol? (hblank i hi (by omega))
    exact Option.isSome_iff_exists.2 ⟨cell, hcell⟩
  have hbehind : ((ofSpans spans).draw area canvas).BlankAt area.y (area.x + widthOf symbols) n := by
    intro i hi hlt
    rw [symbol?, hsame i (.inr hi)]
    exact hblank i (by omega) (by omega)
  have hrest := textFrom_stretch_blank n 0 hbehind
  rw [rowText_eq_textFrom, hn, hwritten.textFrom hwidth hcells n, Nat.add_sub_cancel_left]
  simpa [stretch] using hrest

end Line

end StyledLine

end TableDesk.Screen
