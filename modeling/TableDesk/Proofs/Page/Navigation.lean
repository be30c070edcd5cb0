import Mathlib.Algebra.GroupWithZero.Nat
import TableDesk.Proofs.Page.WellFormed

/-!
The list as a whole, and the way through it. The lines are those of the groups, one group after the other, so that a
line tells its group and no line comes twice; there is a line for every group and for every table of an unfolded group,
and no other. Going down from the first line and going up from the last one reach them all, one line with each move, and
stop at the end of the list.
-/

namespace TableDesk.Page

/-! ### The lines -/

theorem nodup_groupLines (position : Nat) (g : Group) : (groupLines position g).Nodup := by
  have htables : ((List.range g.tables.length).map (Line.table position)).Nodup :=
    List.nodup_range.map fun _ _ h => (Line.table.inj h).2
  cases hs : g.row.selected <;> simp [groupLines, hs, htables]

/-- No line is that of two groups. -/
theorem position_eq_of_mem_groupLines {position other : Nat} {g h : Group} {line : Line}
    (hline : line ∈ groupLines position g) (hother : line ∈ groupLines other h) : position = other := by
  cases line with
  | group group => exact (group_mem_groupLines.1 hline).symm.trans (group_mem_groupLines.1 hother)
  | table group table => exact (table_mem_groupLines.1 hline).1.symm.trans (table_mem_groupLines.1 hother).1

theorem nodup_linesFrom (position : Nat) (groups : List Group) : (linesFrom position groups).Nodup := by
  induction groups generalizing position with
  | nil => exact List.nodup_nil
  | cons g rest ih =>
    rw [linesFrom, List.nodup_append]
    refine ⟨nodup_groupLines position g, ih (position + 1), ?_⟩
    rintro line hline _ hbelow rfl
    obtain ⟨below, other, -, hother⟩ := mem_linesFrom.1 hbelow
    have := position_eq_of_mem_groupLines hline hother
    omega

theorem length_groupLines (position : Nat) (g : Group) :
    (groupLines position g).length = 1 + if g.row.selected then g.tables.length else 0 := by
  cases hs : g.row.selected <;> simp [groupLines, hs, Nat.add_comm]

theorem length_linesFrom (position : Nat) (groups : List Group) :
    (linesFrom position groups).length =
      groups.length + ((groups.filter (·.row.selected)).map (·.tables.length)).sum := by
  induction groups generalizing position with
  | nil => rfl
  | cons g rest ih =>
    rw [linesFrom, List.length_append, length_groupLines, ih, List.length_cons]
    cases hs : g.row.selected <;> simp [hs] <;> omega

/-! ### The way down and the way up -/

theorem run_down (p : Page) (k : Nat) :
    run (.selectFirst :: List.replicate k .selectNext) p = { p with cursor := min k (p.lines.length - 1) } := by
  have hdown := run_replicate_selectNext k (p := p.selectFirst) (Nat.zero_le _)
  rw [run_cons, Op.run, hdown, show p.selectFirst.cursor = 0 from rfl, Nat.zero_add]
  rfl

/-- Going up moves the cursor by as many lines as there are left. -/
theorem run_replicate_selectPrevious (n : Nat) (p : Page) :
    run (List.replicate n .selectPrevious) p = { p with cursor := p.cursor - n } := by
  induction n generalizing p with
  | zero => rfl
  | succ n ih =>
    rw [List.replicate_succ, run_cons, Op.run, selectPrevious, ih, Nat.sub_sub, Nat.add_comm]

theorem run_up (p : Page) (j : Nat) :
    run (.selectLast :: List.replicate j .selectPrevious) p = { p with cursor := p.lines.length - 1 - j } := by
  rw [run_cons, run_replicate_selectPrevious]
  rfl

/-! ### Any way -/

def moves : List Op := [.selectPrevious, .selectNext, .selectFirst, .selectLast]

theorem Op.run_of_mem_moves {o : Op} (h : o ∈ moves) (p : Page) : ∃ cursor, o.run p = { p with cursor } := by
  cases o with
  | selectPrevious | selectFirst | selectLast => exact ⟨_, rfl⟩
  | selectNext =>
    rw [Op.run, Page.selectNext]
    split
    · exact ⟨_, rfl⟩
    · exact ⟨p.cursor, rfl⟩
  | setTables | activate | check | clear => simp [moves] at h

theorem run_of_forall_mem_moves {ops : List Op} (h : ∀ o ∈ ops, o ∈ moves) (p : Page) :
    ∃ cursor, run ops p = { p with cursor } := by
  induction ops generalizing p with
  | nil => exact ⟨p.cursor, rfl⟩
  | cons o rest ih =>
    obtain ⟨hmove, hrest⟩ := List.forall_mem_cons.1 h
    obtain ⟨first, hfirst⟩ := Op.run_of_mem_moves hmove p
    obtain ⟨cursor, hcursor⟩ := ih hrest { p with cursor := first }
    exact ⟨cursor, by rw [run_cons, hfirst, hcursor]⟩

/-- The list shows, for one group after the other, the row of the group and, exactly if the group is unfolded, the rows
of its tables in order. No row comes twice, each is that of a group or a table that is there, and there are as many as
groups and tables of unfolded groups. Going down from the first row and up from the last one moves the cursor by one
row each time until the end of the list, and nothing else. So every row is reached, and on a page that operations lead
to the cursor stays on the list with every move. -/
theorem every_line_is_listed_and_reached (p : Page) :
    (p.lines = p.groups.zipIdx.flatMap (fun entry => .group entry.2 ::
        if entry.1.row.selected then (List.range entry.1.tables.length).map (.table entry.2) else [])) ∧
      (p.lines.Nodup ∧
        (∀ group, .group group ∈ p.lines ↔ ∃ g, p.groups[group]? = some g) ∧
        (∀ group table, .table group table ∈ p.lines ↔
          ∃ g t, p.groups[group]? = some g ∧ g.row.selected = true ∧ p.table? group table = some t) ∧
        p.lines.length = p.groups.length + ((p.groups.filter (·.row.selected)).map (·.tables.length)).sum) ∧
      (∀ k, run (.selectFirst :: List.replicate k .selectNext) p = { p with cursor := min k (p.lines.length - 1) }) ∧
      (∀ j, run (.selectLast :: List.replicate j .selectPrevious) p = { p with cursor := p.lines.length - 1 - j }) ∧
      (∀ (i : Nat) (line : Line), p.lines[i]? = some line →
        (run (.selectFirst :: List.replicate i .selectNext) p).current = some line ∧
          (run (.selectLast :: List.replicate (p.lines.length - 1 - i) .selectPrevious) p).current = some line) ∧
      (Reachable p → ∀ ops, (∀ o ∈ ops, o ∈ moves) →
        ∃ cursor, run ops p = { p with cursor } ∧ (p.lines = [] → cursor = 0) ∧
          (p.lines ≠ [] → cursor < p.lines.length)) := by
  refine ⟨linesFrom_eq_flatMap 0 p.groups, ⟨nodup_linesFrom 0 p.groups, fun _ => group_mem_lines,
    fun _ _ => table_mem_lines, length_linesFrom 0 p.groups⟩, p.run_down, p.run_up, ?_, ?_⟩
  · intro i line hi
    have hlt : i < p.lines.length := (List.getElem?_eq_some_iff.1 hi).1
    have hdown : min i (p.lines.length - 1) = i := by omega
    have hup : p.lines.length - 1 - (p.lines.length - 1 - i) = i := by omega
    rw [run_down, run_up, hdown, hup]
    exact ⟨hi, hi⟩
  · intro hp ops hops
    obtain ⟨cursor, hrun⟩ := run_of_forall_mem_moves hops p
    have hcursor : (run ops p).CursorOnList := (hp.run ops).wellFormed.cursor
    rw [hrun] at hcursor
    refine ⟨cursor, hrun, fun hnil => ?_, fun hne => ?_⟩
    · exact hcursor.cursor_eq_zero (lines_eq_nil_iff.1 hnil)
    · exact hcursor.cursor_lt (mt lines_eq_nil_iff.2 hne)

/-- Of three groups the first one is unfolded. Nine moves down from the first row end on the fifth and last one, and the
third row is reached from either end. -/
theorem unfolded_group_is_listed_and_reached :
    let p := run [.setTables [⟨some "P", "A", none⟩, ⟨some "Q", "B", some 3⟩, ⟨some "P", "C", none⟩,
      ⟨none, "D", none⟩], .activate, .selectLast] .empty
    (p.lines = [.group 0, .table 0 0, .table 0 1, .group 1, .group 2] ∧ p.lines.Nodup) ∧
      run (.selectFirst :: List.replicate 9 .selectNext) p = { p with cursor := 4 } ∧
      (p.lines[2]? = some (.table 0 1) ∧
        (run (.selectFirst :: List.replicate 2 .selectNext) p).current = some (.table 0 1) ∧
        (run (.selectLast :: List.replicate 2 .selectPrevious) p).current = some (.table 0 1)) ∧
      Reachable p ∧ ∃ cursor, run [.selectNext, .selectPrevious, .selectPrevious] p = { p with cursor } ∧ cursor < 5 := by
  intro p
  have hlines : p.lines = [.group 0, .table 0 0, .table 0 1, .group 1, .group 2] := by decide
  have hthird : p.lines[2]? = some (.table 0 1) := by decide
  have hp : Reachable p := ⟨_, rfl⟩
  obtain ⟨-, ⟨hnodup, -⟩, hdown, -, hreached, hstays⟩ := every_line_is_listed_and_reached p
  obtain ⟨cursor, hrun, -, hlt⟩ := hstays hp [.selectNext, .selectPrevious, .selectPrevious] (by decide)
  have hends : min 9 (p.lines.length - 1) = 4 := by decide
  refine ⟨⟨hlines, hnodup⟩, by rw [hdown, hends], ⟨hthird, (hreached 2 _ hthird).1, ?_⟩, hp, cursor, hrun, ?_⟩
  · have hup : p.lines.length - 1 - 2 = 2 := by decide
    rw [← hup]
    exact (hreached 2 _ hthird).2
  · rw [hlines] at hlt
    exact hlt (by simp)

end TableDesk.Page
