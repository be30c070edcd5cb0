import Mathlib.Data.List.Basic
import TableDesk.Proofs.Group.Rows
import TableDesk.Proofs.Page.Activation
import TableDesk.Proofs.Page.WellFormed
import TableDesk.Proofs.Session.Change
import TableDesk.Proofs.View.ListRow

/-!
The drawn list and the page. A row is made for every line of the list, although the group or the table of a line
is looked up by position and a line without one would be passed over: the lines of a page have their groups and
tables. Only the sum of the rows of a group can keep the list from being built, in a program with overflow checks.
What a row shows can be read off the line, and what stands below the row of a group tells whether the group is
unfolded, since no group is empty. The rows that are drawn hold the row under the cursor, each on a line of its own.
-/

namespace TableDesk

open Screen

/-! ### Rows and their lines -/

/-- Where every element has an image, a position of the images is that of the elements. -/
theorem getElem?_filterMap_of_isSome {α β : Type} {f : α → Option β} {l : List α} (h : ∀ a ∈ l, (f a).isSome = true)
    (i : Nat) : (l.filterMap f)[i]? = l[i]?.bind f := by
  induction l generalizing i with
  | nil => rfl
  | cons a rest ih =>
    obtain ⟨b, hb⟩ := Option.isSome_iff_exists.1 (h a List.mem_cons_self)
    rw [List.filterMap_cons_some hb]
    cases i with
    | zero => simp [hb]
    | succ i => simpa using ih (fun a ha => h a (List.mem_cons_of_mem _ ha)) i

namespace Session

variable {ρ : Type}

/-- What the row of a line shows, with the sum of its rows in sixty-four bits. -/
def lineContent (s : Session ρ) : Line → Option RowContent
  | .group group => s.page.groups[group]?.map fun g => s.groupContent g (.ofNat g.rowSum)
  | .table group table => (s.page.table? group table).map s.tableContent

def lineRows (s : Session ρ) : List ListRow :=
  s.page.lines.zipIdx.filterMap fun (line, position) => (s.lineContent line).map (⟨·, position == s.page.cursor⟩)

/-- The rows below a position begin with those of the tables of a group, all of them in order. -/
def TablesFollow (s : Session ρ) (rows : List ListRow) (position : Nat) (g : Group) : Prop :=
  g.tables.map s.tableContent <+: (rows.drop (position + 1)).map (·.content)

variable {s : Session ρ} {overflow : Overflow}

/-! ### When there is a list -/

theorem isSome_rowContent_group {group : Nat} {g : Group} (hg : s.page.groups[group]? = some g) :
    (s.rowContent overflow (.group group)).isSome = true ↔ (overflow = .stops → g.rowSum < UInt64.size) := by
  simp only [rowContent, hg, Option.isSome_map, Group.isSome_totalRows?_iff]

theorem join_rowContent {line : Line} (h : (s.rowContent overflow line).isSome = true) :
    (s.rowContent overflow line).join = s.lineContent line := by
  cases line with
  | table group table => rfl
  | group group =>
    cases hg : s.page.groups[group]? with
    | none => simp [rowContent, lineContent, hg]
    | some g =>
      simp only [rowContent, hg, Option.isSome_map] at h
      obtain ⟨total, ht⟩ := Option.isSome_iff_exists.1 h
      obtain rfl := Group.eq_ofNat_of_totalRows? ht
      simp [rowContent, lineContent, hg, ht]

/-- All rows can be made if and only if the sums of all groups can, since each group has a line. -/
theorem forall_isSome_rowContent_iff :
    (∀ entry ∈ s.page.lines.zipIdx, (s.rowContent overflow entry.1).isSome = true) ↔
      (overflow = .stops → ∀ g ∈ s.page.groups, g.rowSum < UInt64.size) := by
  constructor
  · intro h hstops g hg
    obtain ⟨group, hgroup⟩ := List.mem_iff_getElem?.1 hg
    obtain ⟨position, hline⟩ := List.mem_iff_getElem?.1 (Page.group_mem_lines.2 ⟨g, hgroup⟩)
    exact (isSome_rowContent_group hgroup).1 (h _ (List.mk_mem_zipIdx_iff_getElem?.2 hline)) hstops
  · rintro h ⟨line, position⟩ -
    cases line with
    | table group table => rfl
    | group group =>
      cases hg : s.page.groups[group]? with
      | none => simp [rowContent, hg]
      | some g => exact (isSome_rowContent_group hg).2 fun hstops => h hstops g (List.mem_of_getElem? hg)

/-- The list is built unless a group has more rows than the sum may be, and then it has a row for each line. -/
theorem listRows_eq_some_iff {rows : List ListRow} :
    s.listRows overflow = some rows ↔
      (overflow = .stops → ∀ g ∈ s.page.groups, g.rowSum < UInt64.size) ∧ s.lineRows = rows := by
  rw [listRows, filterMapM_eq_some_iff, ← forall_isSome_rowContent_iff]
  simp only [Option.isSome_map]
  refine and_congr_right fun h => ?_
  refine Eq.congr_left (List.filterMap_congr fun entry hentry => ?_)
  obtain ⟨line, position⟩ := entry
  have hcontent := join_rowContent (h (line, position) hentry)
  dsimp only at hcontent ⊢
  rw [← hcontent]
  cases s.rowContent overflow line <;> rfl

/-- Once some tables are listed, the list is built as long as no plugin has more rows than the sum may be. -/
theorem isSome_listRows_setTables_iff (s : Session ρ) (overflow : Overflow) (tables : List Table) :
    (listRows overflow { s with page := s.page.setTables tables }).isSome = true ↔
      (overflow = .stops → ∀ plugin, Group.sumOfRows (tables.filter (·.plugin = plugin)) < UInt64.size) := by
  have hsums : (∀ g ∈ (s.page.setTables tables).groups, g.rowSum < UInt64.size) ↔
      ∀ g ∈ Group.ofTables tables, g.rowSum < UInt64.size := by
    have hcontents : ∀ groups : List Group, (∀ g ∈ groups, g.rowSum < UInt64.size) ↔
        ∀ content ∈ groups.map fun g => (g.plugin, g.tables), Group.sumOfRows content.2 < UInt64.size := by
      simp [Group.rowSum]
    rw [hcontents, hcontents, ← s.page.setTables_contents tables, Page.contents]
  rw [← Group.forall_rowSum_lt_iff (by decide), ← hsums, Option.isSome_iff_exists]
  simp [listRows_eq_some_iff]

theorem exists_lineContent {line : Line} (h : line ∈ s.page.lines) :
    ∃ content, s.lineContent line = some content := by
  cases line with
  | group group =>
    obtain ⟨g, hg⟩ := Page.group_mem_lines.1 h
    exact ⟨_, by rw [lineContent, hg, Option.map_some]⟩
  | table group table =>
    obtain ⟨g, t, -, -, ht⟩ := Page.table_mem_lines.1 h
    exact ⟨s.tableContent t, by simp [lineContent, ht]⟩

/-- Each line has its row, and no row is left out. -/
theorem getElem?_lineRows (s : Session ρ) (i : Nat) :
    s.lineRows[i]? =
      s.page.lines[i]?.bind fun line => (s.lineContent line).map (⟨·, i == s.page.cursor⟩) := by
  rw [lineRows, getElem?_filterMap_of_isSome, List.getElem?_zipIdx]
  · cases s.page.lines[i]? <;> simp
  · intro (line, position) hl
    obtain ⟨content, hc⟩ := exists_lineContent (List.fst_mem_of_mem_zipIdx hl)
    simp [hc]

theorem map_content_lineRows (s : Session ρ) : s.lineRows.map (·.content) = s.page.lines.filterMap s.lineContent := by
  have hrow : ∀ entry : Line × Nat,
      ((s.lineContent entry.1).map fun content => (⟨content, entry.2 == s.page.cursor⟩ : ListRow)).map (·.content) =
        s.lineContent entry.1 := by
    intro entry
    cases s.lineContent entry.1 <;> rfl
  rw [lineRows, List.map_filterMap, ← List.zipIdx_map_fst 0 s.page.lines, List.filterMap_map]
  simp only [hrow, List.zipIdx_map_fst]
  rfl

theorem length_lineRows (s : Session ρ) : s.lineRows.length = s.page.lines.length := by
  have hlength := congrArg List.length s.map_content_lineRows
  rw [List.length_map] at hlength
  rw [hlength, List.filterMap_length_eq_length]
  exact fun line hl => Option.isSome_iff_exists.2 (exists_lineContent hl)

/-! ### Below the row of a group -/

theorem filterMap_tableLines {group : Nat} {g : Group} (hg : s.page.groups[group]? = some g) :
    (Page.tableLines group g).filterMap s.lineContent = g.tables.map s.tableContent := by
  have hcontent : ∀ i, s.lineContent (.table group i) = g.tables[i]?.map s.tableContent := by
    intro i
    rw [lineContent, Page.table?, hg, Option.bind_some]
  rw [Page.tableLines, List.filterMap_map]
  refine List.ext_getElem? fun i => ?_
  rw [getElem?_filterMap_of_isSome, List.getElem?_map]
  · by_cases hi : i < g.tables.length <;> simp [hcontent, hi]
  · intro i hi
    simp [hcontent, List.mem_range.1 hi]

/-- Below the row of an unfolded group stand the rows of its tables, and below these, or below the row of a folded
group, the row of the next group. -/
theorem exists_below_eq {i group : Nat} (h : s.page.lines[i]? = some (.group group)) :
    ∃ g below, s.page.groups[group]? = some g ∧
      (s.lineRows.drop (i + 1)).map (·.content) =
        (if g.row.selected then g.tables.map s.tableContent else []) ++ below ∧
      ∀ content, below.head? = some content → ∃ next total, content = s.groupContent next total := by
  obtain ⟨front, g, back, hon, rfl⟩ := Page.exists_onGroup (p := { s.page with cursor := i }) h
  have hg : s.page.groups[front.length]? = some g := hon.getElem?_groups
  have hlines : s.page.lines = _ := hon.lines
  have hrow : s.lineContent (.group front.length) = some (s.groupContent g (.ofNat g.rowSum)) := by
    rw [lineContent, hg, Option.map_some]
  have habove : ((Page.linesFrom 0 front).filterMap s.lineContent).length = i := by
    refine Eq.trans (List.filterMap_length_eq_length.2 fun line hl => ?_) hon.cursor.symm
    exact Option.isSome_iff_exists.2 (exists_lineContent (hlines ▸ List.mem_append_left _ hl))
  refine ⟨g, (Page.linesFrom (front.length + 1) back).filterMap s.lineContent, hg, ?_, ?_⟩
  · rw [List.map_drop, map_content_lineRows, hlines, List.filterMap_append, ← habove, List.drop_length_add_append,
      List.filterMap_cons_some hrow, List.drop_succ_cons, List.drop_zero, List.filterMap_append]
    cases g.row.selected <;> simp [filterMap_tableLines hg]
  · intro content hc
    cases back with
    | nil => simp [Page.linesFrom] at hc
    | cons next rest =>
      have hnext : s.lineContent (.group (front.length + 1)) = some (s.groupContent next (.ofNat next.rowSum)) := by
        have hgroups : s.page.groups = front ++ g :: next :: rest := hon.groups
        simp [lineContent, hgroups]
      rw [Page.linesFrom, Page.groupLines_eq, List.cons_append, List.filterMap_cons_some hnext] at hc
      exact ⟨next, _, (Option.some.inj hc).symm⟩

theorem tablesFollow_iff {i group : Nat} (h : s.page.lines[i]? = some (.group group)) {g : Group}
    (hg : s.page.groups[group]? = some g) (hne : g.tables ≠ []) :
    s.TablesFollow s.lineRows i g ↔ g.row.selected = true := by
  obtain ⟨other, below, hother, hcontents, hbelow⟩ := exists_below_eq h
  obtain rfl : g = other := Option.some.inj (hg.symm.trans hother)
  rw [TablesFollow, hcontents]
  cases hs : g.row.selected with
  | true => simp
  | false =>
    -- the first table would have the row of the next group
    obtain ⟨t, rest, ht⟩ := List.exists_cons_of_ne_nil hne
    refine iff_of_false (fun hp => ?_) Bool.false_ne_true
    obtain ⟨more, hm⟩ := hp
    obtain ⟨next, total, hnext⟩ := hbelow (s.tableContent t) (by simpa [ht] using (congrArg List.head? hm).symm)
    cases hnext

theorem groupFollows_iff {i group : Nat} (h : s.page.lines[i]? = some (.group group)) {g : Group}
    (hg : s.page.groups[group]? = some g) (hne : g.tables ≠ []) :
    (∀ row, s.lineRows[i + 1]? = some row → row.IsGroup) ↔ g.row.selected = false := by
  obtain ⟨other, below, hother, hcontents, hbelow⟩ := exists_below_eq h
  obtain rfl : g = other := Option.some.inj (hg.symm.trans hother)
  have hhead : s.lineRows[i + 1]?.map (·.content) =
      ((if g.row.selected then g.tables.map s.tableContent else []) ++ below).head? := by
    rw [← hcontents, List.head?_map, List.head?_drop]
  cases hs : g.row.selected with
  | true =>
    obtain ⟨t, rest, ht⟩ := List.exists_cons_of_ne_nil hne
    refine iff_of_false (fun hgroup => ?_) (by simp)
    obtain ⟨row, hrow, hcontent⟩ := Option.map_eq_some_iff.1 (hhead.trans (by simp [hs, ht]; rfl))
    obtain ⟨unfolded, label, summary, hc⟩ := hgroup row hrow
    rw [hcontent] at hc
    cases hc
  | false =>
    refine iff_of_true (fun row hrow => ?_) rfl
    rw [hrow, hs] at hhead
    obtain ⟨next, total, hnext⟩ := hbelow row.content (by simpa using hhead.symm)
    exact ⟨_, _, _, hnext⟩

/-! ### The list of a page -/

/-- How rows agree with the lines of the page. The row of a group tells by its arrow whether the rows of its tables
stand right below it, all of them in order, or the row of the next group or nothing; the row of a table tells by its
box whether the table is checked. The row under the cursor, and no other one, is in the style of the cursor. -/
structure RowsAgree (s : Session ρ) (p : Palette) (rows : List ListRow) : Prop where
  length : rows.length = s.page.lines.length
  group : ∀ i group : Nat, s.page.lines[i]? = some (.group group) →
    ∃ g row arrow, s.page.groups[group]? = some g ∧ rows[i]? = some row ∧
      row.texts p = [arrow, s.pluginLabel g.plugin,
        s!"  ({s.display .tablesPluginSummary [toString g.tables.length, toString (UInt64.ofNat g.rowSum)]})"] ∧
      row.sign = arrow.toList ∧ (arrow = " ▾ " ↔ s.TablesFollow rows i g) ∧
      (arrow = " ▸ " ↔ ∀ next, rows[i + 1]? = some next → next.IsGroup)
  table : ∀ i group table : Nat, s.page.lines[i]? = some (.table group table) →
    ∃ t row box, s.page.table? group table = some t ∧ rows[i]? = some row ∧
      row.texts p = ["     ", box, " ", t.name, s!"  {s.rowsLabel t.rows}"] ∧
      row.sign = "     ".toList ++ box.toList ∧
      (box = "[x]" ↔ s.page.isChecked t.name = true) ∧ (box = "[ ]" ↔ s.page.isChecked t.name = false)
  cursor : ∀ (i : Nat) (row : ListRow), rows[i]? = some row → (row.underCursor = true ↔ i = s.page.cursor)
  style : ∀ (i : Nat) (row : ListRow), rows[i]? = some row →
    if i = s.page.cursor then ∀ span ∈ row.spans p, span = .raw "     " ∨ span.style = p.cursorStyle
    else ∀ span ∈ row.spans p, span.style ≠ p.cursorStyle

theorem underCursor_of_getElem?_lineRows {i : Nat} {row : ListRow} (h : s.lineRows[i]? = some row) :
    row.underCursor = (i == s.page.cursor) := by
  rw [getElem?_lineRows] at h
  obtain ⟨line, -, h⟩ := Option.bind_eq_some_iff.1 h
  obtain ⟨content, -, rfl⟩ := Option.map_eq_some_iff.1 h
  rfl

theorem rowsAgree_lineRows (hpage : s.page.WellFormed) (p : Palette) : s.RowsAgree p s.lineRows where
  length := s.length_lineRows
  group i group hi := by
    obtain ⟨g, -, hg, -⟩ := exists_below_eq hi
    have hne := hpage.groups.nonempty g (List.mem_of_getElem? hg)
    have hrow : s.lineRows[i]? = some ⟨s.groupContent g (.ofNat g.rowSum), i == s.page.cursor⟩ := by
      simp [getElem?_lineRows, hi, lineContent, hg]
    have hmarked : g.row.marker.isSome = g.row.selected := by cases hs : g.row.selected <;> simp [Row.marker, hs]
    refine ⟨g, _, _, hg, hrow, ListRow.texts_group p _ _ _ _, rfl, ?_, ?_⟩
    · rw [tablesFollow_iff hi hg hne, hmarked]
      cases g.row.selected <;> simp
    · rw [groupFollows_iff hi hg hne, hmarked]
      cases g.row.selected <;> simp
  table i group table hi := by
    obtain ⟨content, hcontent⟩ := exists_lineContent (List.mem_of_getElem? hi)
    obtain ⟨t, ht, rfl⟩ := Option.map_eq_some_iff.1 hcontent
    have hrow : s.lineRows[i]? = some ⟨s.tableContent t, i == s.page.cursor⟩ := by
      simp [getElem?_lineRows, hi, hcontent]
    refine ⟨t, _, _, ht, hrow, ListRow.texts_table p _ _ _ _, ?_, ?_⟩
    · cases hc : s.page.isChecked t.name <;> simp [ListRow.sign, tableContent, hc]
    · cases s.page.isChecked t.name <;> simp
  cursor i row hi := by rw [underCursor_of_getElem?_lineRows hi, beq_iff_eq]
  style i row hi := by
    have hunder := underCursor_of_getElem?_lineRows hi
    split
    next he => exact row.style_of_underCursor p (by simp [hunder, he])
    next hn => exact row.style_ne_of_not_underCursor p (by simp [hunder, hn])

variable [TableStore ρ]

/-- As long as there are tables, a list is built for them, unless the program has overflow checks and the known rows of
some plugin add up to more than sixty-four bits hold. The list has one row for each line of the page, in order, and its
rows agree with the lines. As many rows as the area has lines are drawn, among them the one under the cursor: each on a
line of its own, from the top on, and nothing outside of these lines. -/
theorem drawn_list_agrees_with_page {s : Session ρ} (h : Reachable RequestMove s) (hlist : s.page.isEmpty = false)
    (p : Palette) (overflow : Overflow) :
    ((∃ rows, s.listRows overflow = some rows) ↔
        (overflow = .stops → ∀ g ∈ s.page.groups, g.rowSum < UInt64.size)) ∧
      ∀ rows, s.listRows overflow = some rows →
        s.RowsAgree p rows ∧ s.page.cursor < rows.length ∧
          (∀ height, 0 < height →
            let window := visibleRows height s.page.cursor rows
            ∃ above below, rows = above ++ window ++ below ∧ window.length ≤ height ∧
              above.length ≤ s.page.cursor ∧ s.page.cursor < above.length + window.length) ∧
          ∀ area canvas, area.isEmpty = false →
            (∀ x y, area.contains x y = true → (canvas.cell? x y).isSome) →
              let window := visibleRows area.height s.page.cursor rows
              ∃ drawn, s.drawList overflow p area canvas = some drawn ∧
                (∀ (i : Nat) (row : ListRow), window[i]? = some row →
                  row.ShownIn p { area with y := area.y + i, height := 1 } canvas drawn) ∧
                Canvas.SameOutside { area with height := window.length } canvas drawn := by
  have hpage := h.page.wellFormed
  have hgroups : s.page.groups ≠ [] := by simpa [Page.isEmpty] using hlist
  have hcursor : s.page.cursor < s.lineRows.length := s.length_lineRows ▸ hpage.cursor.cursor_lt hgroups
  refine ⟨by simp [listRows_eq_some_iff], fun rows hrows => ?_⟩
  have hbuilt := hrows
  obtain ⟨-, rfl⟩ := listRows_eq_some_iff.1 hrows
  refine ⟨rowsAgree_lineRows hpage p, hcursor, fun height hheight => exists_visibleRows_eq hheight hcursor, ?_⟩
  intro area canvas harea hcells window
  have hheight : window.length ≤ area.height := List.length_take_le _ _
  refine ⟨_, by rw [drawList, if_neg (by simp [hlist]), hrows, Option.map_some, if_neg (by simp [harea])],
    fun i row hrow => ?_, drawRows_sameOutside p window area.y canvas⟩
  refine shownIn_drawRows p harea hrow fun x hx hlt => hcells x _ (Rect.contains_iff.2 ⟨⟨hx, hlt⟩, ?_⟩)
  have hi := (List.getElem?_eq_some_iff.1 hrow).1
  rw [Rect.bottom]
  omega

/-- Of the tables of an unfolded group the second one is checked, with the cursor on it and a folded group below. -/
def scrolledDown : Session MemoryTables :=
  let tables := [⟨none, "C", none⟩, ⟨some "P", "A", some 3⟩, ⟨some "P", "B", none⟩]
  let s := fresh .english none Message.Language.english.builtIn tables (MemoryTables.mk tables) .empty
  let unfolded := (s.update (.page .activateRow)).state
  let below := ((unfolded.update (.page .selectNext)).state.update (.page .selectNext)).state
  (below.update (.page .toggleCheck)).state

theorem scrolledDown_reachable : Reachable RequestMove scrolledDown :=
  .step (.step (.step (.step (.fresh RequestMove .english rfl .empty) (.answer _ _)) (.answer _ _)) (.answer _ _))
    (.answer _ _)

def scrolledDownRows : List ListRow :=
  [⟨.group true "P" "2 tables, 3 rows", false⟩, ⟨.table false "A" "3 rows", false⟩,
    ⟨.table true "B" "unknown", true⟩, ⟨.group false "Unknown plugin" "1 tables, 0 rows", false⟩]

/-- Of the four rows two fit into an area of two lines. On the second line the row under the cursor can be read, with
a checked box in the style of the cursor, and nothing is drawn below it. -/
theorem scrolledDown_agrees_with_page :
    let area : Rect := ⟨1, 1, 30, 2⟩
    let canvas : Canvas := .blank 40 5
    let p := Theme.dark.palette
    (Reachable RequestMove scrolledDown ∧ scrolledDown.page.isEmpty = false) ∧
      scrolledDown.listRows .stops = some scrolledDownRows ∧ scrolledDown.RowsAgree p scrolledDownRows ∧
      ∃ drawn, scrolledDown.drawList .stops p area canvas = some drawn ∧
        rowText (drawn.stretch 2 1 8) = "     [x]".toList ∧
        rowText (drawn.stretch 2 1 30) = "     [x] B  unknown".toList ++ List.replicate 11 ' ' ∧
        drawn.cell? 7 2 = some (Cell.blank.write ['x'] p.cursorStyle) ∧
        ∀ x, drawn.cell? x 3 = canvas.cell? x 3 := by
  intro area canvas p
  have hlist : scrolledDown.page.isEmpty = false := by rfl
  have hcursor : scrolledDown.page.cursor = 2 := by rfl
  have hbuilt : scrolledDown.listRows .stops = some scrolledDownRows := by decide +kernel
  obtain ⟨-, hrows⟩ := drawn_list_agrees_with_page scrolledDown_reachable hlist p .stops
  obtain ⟨hagree, -, -, hdrawn⟩ := hrows scrolledDownRows hbuilt
  have hcells : ∀ x y, area.contains x y = true → (canvas.cell? x y).isSome := fun x y hin =>
    Canvas.isSome_cell?_blank (Rect.Inside.contains (by simp [area, Rect.Inside, Rect.right, Rect.bottom]) hin)
  obtain ⟨drawn, hdraw, hshown, houtside⟩ := hdrawn area canvas rfl hcells
  rw [hcursor] at hshown houtside
  have hrow := hshown 1 ⟨.table true "B" "unknown", true⟩ rfl
  have hcounted : ∀ span ∈ ListRow.spans p ⟨.table true "B" "unknown", true⟩, span.DrawnAsCounted := by decide +kernel
  have hblank : canvas.BlankAt 2 1 30 := Canvas.blankAt_blank (by decide) (by decide)
  have hwhole := hrow.whole hcounted hblank (by decide +kernel)
  obtain ⟨style, hmark, hstyle, -⟩ := hrow.mark (by decide)
  rw [hstyle rfl] at hmark
  refine ⟨⟨scrolledDown_reachable, hlist⟩, hbuilt, hagree, drawn, hdraw, ?_, ?_, ?_, fun x => ?_⟩
  · exact hrow.sign (by decide)
  · exact hwhole.trans (by decide +kernel)
  · exact hmark
  · exact houtside x 3 (Rect.contains_eq_false_of_le (by decide))

end Session

end TableDesk
