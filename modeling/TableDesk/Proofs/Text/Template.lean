import TableDesk.Proofs.Text.Blank
import TableDesk.Text.Template

/-!
What a template says, as a grammar that knows nothing of the reader. Main statement: the reader gives exactly
the pieces that the grammar allows, so that every template has one reading and arguments have no part in it.
The grammar names the forms that text can take: a character that stands for itself, a doubled apostrophe, a
quotation in which apostrophes are doubled, and braces that hold an index or something else.
-/

namespace TableDesk.Text

/-! ### Indices -/

/-- A row of decimal digits and its value. -/
def IsDigits (text : List Char) (n : Nat) : Prop :=
  text ≠ [] ∧ (∀ c ∈ text, c.isDigit = true) ∧ Nat.ofDigitChars 10 text 0 = n

/-- Digits, possibly after a plus sign, and their value. -/
def IsNumeral (text : List Char) (n : Nat) : Prop :=
  IsDigits text n ∨ ∃ digits, text = '+' :: digits ∧ IsDigits digits n

/-- A numeral of at most 64 bits with white space around it. -/
def IsIndex (inner : List Char) (n : Nat) : Prop :=
  ∃ before numeral after, before ++ numeral ++ after = inner ∧ (∀ c ∈ before, isBlank c = true) ∧
    (∀ c ∈ after, isBlank c = true) ∧ IsNumeral numeral n ∧ n < UInt64.size

theorem readDigits_eq_some_iff {text : List Char} {n : Nat} : readDigits text = some n ↔ IsDigits text n := by
  cases text with
  | nil => simp [readDigits, IsDigits]
  | cons c rest =>
    have hvalue : (c :: rest).foldl (fun n c => 10 * n + (c.toNat - 48)) 0 = Nat.ofDigitChars 10 (c :: rest) 0 :=
      rfl
    simp only [readDigits, hvalue, IsDigits, ne_eq, reduceCtorEq, not_false_eq_true, true_and]
    by_cases hall : (c :: rest).all (·.isDigit) = true
    · rw [if_pos hall, Option.some_inj]
      exact (and_iff_right (List.all_eq_true.1 hall)).symm
    · rw [if_neg hall]
      exact ⟨fun h => by contradiction, fun h => absurd (List.all_eq_true.2 h.1) hall⟩

theorem readNumeral_eq_some_iff {text : List Char} {n : Nat} : readNumeral text = some n ↔ IsNumeral text n := by
  unfold readNumeral IsNumeral
  split
  next digits =>
    have hplus : ¬ IsDigits ('+' :: digits) n := fun h => absurd (h.2.1 '+' List.mem_cons_self) (by decide)
    simp [readDigits_eq_some_iff, hplus]
  next hplus =>
    rw [readDigits_eq_some_iff]
    exact ⟨.inl, fun h => h.resolve_right fun ⟨digits, he, _⟩ => hplus digits he⟩

theorem isBlank_of_isDigit {c : Char} (h : c.isDigit = true) : isBlank c = false := by
  have hbounds : 48 ≤ c.toNat ∧ c.toNat ≤ 57 := by
    simpa [Char.isDigit, UInt32.le_iff_toNat_le] using h
  simp only [isBlank, Bool.or_eq_false_iff, Bool.and_eq_false_iff, decide_eq_false_iff_not, beq_eq_false_iff_ne]
  omega

theorem IsNumeral.isBlank {text : List Char} {n : Nat} (h : IsNumeral text n) {c : Char} (hc : c ∈ text) :
    isBlank c = false := by
  rcases h with h | ⟨digits, rfl, h⟩
  · exact isBlank_of_isDigit (h.2.1 c hc)
  · rcases List.mem_cons.1 hc with rfl | hc
    · decide
    · exact isBlank_of_isDigit (h.2.1 c hc)

theorem readIndex_eq_some_iff {inner : List Char} {n : Nat} : readIndex inner = some n ↔ IsIndex inner n := by
  simp only [readIndex, Option.filter_eq_some_iff, readNumeral_eq_some_iff, decide_eq_true_iff]
  constructor
  · rintro ⟨hn, hlt⟩
    obtain ⟨before, after, hb, ha, he⟩ := exists_append_trim_append inner
    exact ⟨before, trim inner, after, he, hb, ha, hn, hlt⟩
  · rintro ⟨before, numeral, after, rfl, hb, ha, hn, hlt⟩
    rw [trim_eq hb ha (fun c hc => hn.isBlank (List.mem_of_head? hc))
      fun c hc => hn.isBlank (List.mem_of_getLast? hc)]
    exact ⟨hn, hlt⟩

/-! ### The grammar -/

/-- A text as it is written inside a quotation. -/
def doubled (text : List Char) : List Char :=
  text.flatMap fun c => if c = '\x27' then ['\x27', '\x27'] else [c]

def literals (text : List Char) : List Piece := text.map fun c => .literal [c]

/-- The pieces that a template is made of. -/
inductive Reads : List Char → List Piece → Prop
  | nil : Reads [] []
  | char {c : Char} {rest : List Char} {ps : List Piece} (hquote : c ≠ '\x27') (hbrace : c ≠ '\x7b')
      (hrest : Reads rest ps) : Reads (c :: rest) (.literal [c] :: ps)
  | apostrophe {rest : List Char} {ps : List Piece} (hrest : Reads rest ps) :
      Reads ('\x27' :: '\x27' :: rest) (.literal ['\x27'] :: ps)
  -- A quotation neither begins nor ends beside another apostrophe, which would be a doubled one.
  | quotation {text rest : List Char} {ps : List Piece} (hne : text ≠ []) (hopen : text.head? ≠ some '\x27')
      (hclose : rest.head? ≠ some '\x27') (hrest : Reads rest ps) :
      Reads ('\x27' :: (doubled text ++ '\x27' :: rest)) (literals text ++ ps)
  -- One that is never closed goes on to the end of the template, as do braces that are never closed.
  | openQuotation {text : List Char} (hopen : text.head? ≠ some '\x27') :
      Reads ('\x27' :: doubled text) (literals text)
  | placeholder {inner rest : List Char} {n : Nat} {ps : List Piece} (hclose : '\x7d' ∉ inner)
      (hindex : IsIndex inner n) (hrest : Reads rest ps) :
      Reads ('\x7b' :: (inner ++ '\x7d' :: rest)) (.placeholder n ('\x7b' :: (inner ++ ['\x7d'])) :: ps)
  | braces {inner rest : List Char} {ps : List Piece} (hclose : '\x7d' ∉ inner)
      (hindex : ∀ n, ¬ IsIndex inner n) (hrest : Reads rest ps) :
      Reads ('\x7b' :: (inner ++ '\x7d' :: rest)) (.literal ('\x7b' :: (inner ++ ['\x7d'])) :: ps)
  | openBrace {inner : List Char} (hclose : '\x7d' ∉ inner) : Reads ('\x7b' :: inner) [.literal ('\x7b' :: inner)]

theorem head?_doubled (text : List Char) : (doubled text).head? = text.head? := by
  cases text with
  | nil => rfl
  | cons c rest => by_cases h : c = '\x27' <;> simp [doubled, h]

theorem doubled_cons (c : Char) (rest : List Char) :
    doubled (c :: rest) = (if c = '\x27' then ['\x27', '\x27'] else [c]) ++ doubled rest := rfl

theorem head?_ne_of_forall_ne {c : Char} {text : List Char} (h : ∀ rest, text ≠ c :: rest) :
    text.head? ≠ some c := by
  intro hc
  obtain ⟨rest, rfl⟩ := List.head?_eq_some_iff.1 hc
  exact h rest rfl

/-! ### The reader on the forms of the grammar -/

theorem piecesFrom_char {c : Char} (hquote : c ≠ '\x27') (hbrace : c ≠ '\x7b') (rest : List Char) :
    piecesFrom .plain (c :: rest) = .literal [c] :: piecesFrom .plain rest := by
  rw [piecesFrom]
  · exact fun _ h _ => hquote h
  · exact hquote
  · exact hbrace

theorem piecesFrom_open {rest : List Char} (h : rest.head? ≠ some '\x27') :
    piecesFrom .plain ('\x27' :: rest) = piecesFrom .quotation rest := by
  rw [piecesFrom]
  exact fun _ hr => h (hr ▸ rfl)

theorem piecesFrom_close {rest : List Char} (h : rest.head? ≠ some '\x27') :
    piecesFrom .quotation ('\x27' :: rest) = piecesFrom .plain rest := by
  rw [piecesFrom]
  exact fun _ hr => h (hr ▸ rfl)

theorem piecesFrom_doubled (text rest : List Char) :
    piecesFrom .quotation (doubled text ++ rest) = literals text ++ piecesFrom .quotation rest := by
  induction text with
  | nil => rfl
  | cons c text ih =>
    by_cases h : c = '\x27'
    · subst h
      simp [doubled_cons, piecesFrom, literals, ih]
    · simp [doubled_cons, piecesFrom, literals, h, ih]

theorem piecesFrom_braces {more : List Char} (h : '\x7d' ∉ more) (inner rest : List Char) :
    piecesFrom (.braces inner) (more ++ '\x7d' :: rest) = .ofBraces (inner ++ more) :: piecesFrom .plain rest := by
  induction more generalizing inner with
  | nil => simp [piecesFrom]
  | cons c more ih =>
    obtain ⟨hc, hm⟩ := List.ne_and_not_mem_of_not_mem_cons h
    simp [piecesFrom, Ne.symm hc, ih hm]

theorem piecesFrom_openBrace {more : List Char} (h : '\x7d' ∉ more) (inner : List Char) :
    piecesFrom (.braces inner) more = [.literal ('\x7b' :: (inner ++ more))] := by
  induction more generalizing inner with
  | nil => simp [piecesFrom]
  | cons c more ih =>
    obtain ⟨hc, hm⟩ := List.ne_and_not_mem_of_not_mem_cons h
    simp [piecesFrom, Ne.symm hc, ih hm]

theorem Piece.ofBraces_of_isIndex {inner : List Char} {n : Nat} (h : IsIndex inner n) :
    Piece.ofBraces inner = .placeholder n ('\x7b' :: (inner ++ ['\x7d'])) := by
  simp [Piece.ofBraces, readIndex_eq_some_iff.2 h]

theorem Piece.ofBraces_of_not_isIndex {inner : List Char} (h : ∀ n, ¬ IsIndex inner n) :
    Piece.ofBraces inner = .literal ('\x7b' :: (inner ++ ['\x7d'])) := by
  have hnone : readIndex inner = none := by
    rw [Option.eq_none_iff_forall_ne_some]
    exact fun n hn => h n (readIndex_eq_some_iff.1 hn)
  simp [Piece.ofBraces, hnone]

/-- No template can be read in a way that is not the reader's. -/
theorem Reads.eq_piecesFrom {template : List Char} {ps : List Piece} (h : Reads template ps) :
    ps = piecesFrom .plain template := by
  induction h with
  | nil => rfl
  | char hquote hbrace _ ih => rw [piecesFrom_char hquote hbrace, ← ih]
  | apostrophe _ ih => rw [piecesFrom, ← ih]
  | @quotation text rest ps hne hopen hclose _ ih =>
    have hhead : (doubled text ++ '\x27' :: rest).head? ≠ some '\x27' := by
      rw [List.head?_append, head?_doubled]
      cases text with
      | nil => contradiction
      | cons c text => simpa using hopen
    rw [piecesFrom_open hhead, piecesFrom_doubled, piecesFrom_close hclose, ← ih]
  | @openQuotation text hopen =>
    rw [piecesFrom_open (by rwa [head?_doubled]), ← List.append_nil (doubled text), piecesFrom_doubled]
    simp [piecesFrom]
  | placeholder hclose hindex _ ih =>
    rw [piecesFrom, piecesFrom_braces hclose, List.nil_append, Piece.ofBraces_of_isIndex hindex, ← ih]
  | braces hclose hindex _ ih =>
    rw [piecesFrom, piecesFrom_braces hclose, List.nil_append, Piece.ofBraces_of_not_isIndex hindex, ← ih]
  | openBrace hclose => rw [piecesFrom, piecesFrom_openBrace hclose, List.nil_append]

/-! ### The forms of the grammar behind the reader -/

/-- What may be read from where the reader stands. -/
def Continues : Reading → List Char → List Piece → Prop
  | .plain, text, ps => Reads text ps
  | .quotation, text, ps =>
    (∃ quoted rest qs, text = doubled quoted ++ '\x27' :: rest ∧ rest.head? ≠ some '\x27' ∧ Reads rest qs ∧
      ps = literals quoted ++ qs) ∨
    ∃ quoted, text = doubled quoted ∧ ps = literals quoted
  | .braces inner, text, ps =>
    (∃ more rest qs, text = more ++ '\x7d' :: rest ∧ '\x7d' ∉ more ∧ Reads rest qs ∧
      ps = .ofBraces (inner ++ more) :: qs) ∨
    '\x7d' ∉ text ∧ ps = [.literal ('\x7b' :: (inner ++ text))]

/-- A character inside a quotation, written as it is or doubled. -/
theorem Continues.quotation_cons {c : Char} {text : List Char} {ps : List Piece}
    (h : Continues .quotation text ps) : Continues .quotation (doubled [c] ++ text) (.literal [c] :: ps) := by
  rcases h with ⟨quoted, rest, qs, rfl, hclose, hrest, rfl⟩ | ⟨quoted, rfl, rfl⟩
  · exact .inl ⟨c :: quoted, rest, qs, by simp [doubled], hclose, hrest, rfl⟩
  · exact .inr ⟨c :: quoted, by simp [doubled], rfl⟩

theorem Continues.braces_cons {c : Char} (hc : c ≠ '\x7d') {inner text : List Char} {ps : List Piece}
    (h : Continues (.braces (inner ++ [c])) text ps) : Continues (.braces inner) (c :: text) ps := by
  rcases h with ⟨more, rest, qs, rfl, hm, hrest, rfl⟩ | ⟨hm, rfl⟩
  · exact .inl ⟨c :: more, rest, qs, rfl, by simp [Ne.symm hc, hm], hrest, by simp⟩
  · exact .inr ⟨by simp [Ne.symm hc, hm], by simp⟩

/-- A quotation may begin where no apostrophe follows its own. -/
theorem Continues.reads_quotation {text : List Char} (hopen : text.head? ≠ some '\x27') {ps : List Piece}
    (h : Continues .quotation text ps) : Reads ('\x27' :: text) ps := by
  rcases h with ⟨quoted, rest, qs, rfl, hclose, hrest, rfl⟩ | ⟨quoted, rfl, rfl⟩
  · cases quoted with
    | nil => simp [doubled] at hopen
    | cons c quoted =>
      rw [List.head?_append, head?_doubled] at hopen
      exact .quotation (List.cons_ne_nil c quoted) (by simpa using hopen) hclose hrest
  · exact .openQuotation (by rwa [head?_doubled] at hopen)

theorem Continues.reads_braces {text : List Char} {ps : List Piece} (h : Continues (.braces []) text ps) :
    Reads ('\x7b' :: text) ps := by
  rcases h with ⟨inner, rest, qs, rfl, hclose, hrest, rfl⟩ | ⟨hclose, rfl⟩
  · rw [List.nil_append]
    by_cases hindex : ∃ n, IsIndex inner n
    · obtain ⟨n, hn⟩ := hindex
      rw [Piece.ofBraces_of_isIndex hn]
      exact .placeholder hclose hn hrest
    · rw [not_exists] at hindex
      rw [Piece.ofBraces_of_not_isIndex hindex]
      exact .braces hclose hindex hrest
  · exact .openBrace hclose

/-- Wherever the reader stands, what it reads is what may be read there. -/
theorem continues_piecesFrom (reading : Reading) (text : List Char) :
    Continues reading text (piecesFrom reading text) := by
  fun_induction piecesFrom reading text with
  | case1 rest ih => exact .apostrophe ih
  | case2 rest hnot ih => exact ih.reads_quotation (head?_ne_of_forall_ne hnot)
  | case3 rest ih => exact ih.reads_braces
  | case4 c rest _ hquote hbrace ih => exact .char hquote hbrace ih
  | case5 => exact .nil
  | case6 rest ih => exact ih.quotation_cons (c := '\x27')
  | case7 rest hnot ih => exact .inl ⟨[], rest, _, rfl, head?_ne_of_forall_ne hnot, ih, rfl⟩
  | case8 c rest _ hquote ih => simpa [doubled, show c ≠ '\x27' from hquote] using ih.quotation_cons (c := c)
  | case9 => exact .inr ⟨[], rfl, rfl⟩
  | case10 inner rest ih => exact .inl ⟨[], rest, _, rfl, by simp, ih, by simp⟩
  | case11 inner c rest hc ih => exact ih.braces_cons hc
  | case12 inner => exact .inr ⟨by simp, by simp⟩

/-- The grammar allows one reading, that of the reader. -/
theorem reads_iff {template : List Char} {ps : List Piece} :
    Reads template ps ↔ ps = piecesFrom .plain template :=
  ⟨Reads.eq_piecesFrom, fun h => h ▸ continues_piecesFrom .plain template⟩

/-- The pieces of a whole template. One without an opening brace is one piece, apostrophes included. -/
def IsRead (template : List Char) (ps : List Piece) : Prop :=
  if '\x7b' ∈ template then Reads template ps else ps = [.literal template]

theorem isRead_iff {template : List Char} {ps : List Piece} : IsRead template ps ↔ ps = pieces template := by
  unfold IsRead pieces
  split
  · exact reads_iff
  · exact Iff.rfl

/-! ### Arguments in their places -/

/-- The text of a piece. A placeholder is its argument if there is one, and its own spelling otherwise. -/
def Piece.shown (args : List String) : Piece → String
  | .literal text => .ofList text
  | .placeholder index spelling => if h : index < args.length then args[index] else .ofList spelling

theorem Piece.toList_shown (args : List String) (p : Piece) :
    (p.shown args).toList = p.fill (args.map String.toList) := by
  cases p with
  | literal text => exact String.toList_ofList
  | placeholder index spelling =>
    by_cases h : index < args.length <;> simp [shown, fill, h]

/-- The arguments are inserted between the pieces as they are. -/
theorem formatMessage_eq_join (template : String) (args : List String) :
    formatMessage template args = String.join ((pieces template.toList).map (Piece.shown args)) := by
  rw [← String.toList_inj, formatMessage, String.toList_ofList, fill, String.toList_join, List.flatMap_map]
  simp only [Piece.toList_shown]

/-- A text that no template can take for anything but itself. -/
def IsPlain (text : List Char) : Prop := '\x27' ∉ text ∧ '\x7b' ∉ text

instance (text : List Char) : Decidable (IsPlain text) := inferInstanceAs (Decidable (_ ∧ _))

theorem IsPlain.reads_append {text : List Char} (hplain : IsPlain text) {rest : List Char} {ps : List Piece}
    (h : Reads rest ps) : Reads (text ++ rest) (literals text ++ ps) := by
  induction text with
  | nil => exact h
  | cons c text ih =>
    obtain ⟨hquote, hquotes⟩ := List.ne_and_not_mem_of_not_mem_cons hplain.1
    obtain ⟨hbrace, hbraces⟩ := List.ne_and_not_mem_of_not_mem_cons hplain.2
    exact .char (Ne.symm hquote) (Ne.symm hbrace) (ih ⟨hquotes, hbraces⟩)

theorem flatMap_fill_literals (args : List (List Char)) (text : List Char) :
    (literals text).flatMap (Piece.fill args) = text := by
  induction text with
  | nil => rfl
  | cons c rest ih => simpa [literals, Piece.fill] using ih

theorem isIndex_zero : IsIndex ['0'] 0 :=
  ⟨[], ['0'], [], rfl, by simp, by simp, .inl ⟨by simp, List.all_eq_true.1 (by decide), by decide⟩, by decide⟩

/-- A template of one placeholder and plain text around it. -/
theorem formatMessage_placeholder {before after : String} (hb : IsPlain before.toList)
    (ha : IsPlain after.toList) (arg : String) :
    formatMessage (before ++ "\x7b0\x7d" ++ after) [arg] = before ++ arg ++ after := by
  have hafter : Reads after.toList (literals after.toList) := by
    simpa using ha.reads_append Reads.nil
  have htemplate : (before ++ "\x7b0\x7d" ++ after).toList =
      before.toList ++ ('\x7b' :: (['0'] ++ '\x7d' :: after.toList)) := by simp
  have hreads := hb.reads_append (Reads.placeholder (by simp) isIndex_zero hafter)
  have hpieces := isRead_iff.1 (show IsRead (before ++ "\x7b0\x7d" ++ after).toList _ by
    rw [htemplate, IsRead, if_pos (by simp)]
    exact hreads)
  rw [← String.toList_inj, formatMessage, String.toList_ofList, fill, ← hpieces]
  simp [flatMap_fill_literals, Piece.fill]

end TableDesk.Text
