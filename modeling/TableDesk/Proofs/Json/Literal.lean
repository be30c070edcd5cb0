import TableDesk.Json.Printer
import TableDesk.Json.Token

/-!
Reading back single literals. A string literal gives the text that it was written for, whatever has to be escaped
in it, and a number is read to its end.
-/

namespace TableDesk.Json

/-- A reader that is given more goes on where it has come. -/
theorem foldlM_append_of_eq_some {σ α : Type} {step : σ → α → Option σ} {before after : List α} {s s' : σ}
    (h : before.foldlM step s = some s') : (before ++ after).foldlM step s = after.foldlM step s' := by
  rw [List.foldlM_append, h]
  rfl

/-! ### Strings -/

/-- A control character that has no escape of two characters. -/
def isUnnamed (c : Char) : Bool :=
  c.toNat < 0x20 && c ∉ ['\x08', '\x0c', '\n', '\r', '\t']

/-- What is read for a character of a string literal. -/
def unitOf (c : Char) : Unit16 := if isUnnamed c then .unit c.toNat else .char c

theorem hexDigit_digitChar {d : Nat} (h : d < 16) : hexDigit (Nat.digitChar d) = some d := by
  have hall : ∀ d < 16, hexDigit (Nat.digitChar d) = some d := by decide
  exact hall d h

/-- Control characters have two hexadecimal digits. -/
theorem unicodeEscape_eq {c : Char} (h : c.toNat < 0x20) :
    unicodeEscape c = ['\\', 'u', '0', '0', Nat.digitChar (c.toNat / 16), Nat.digitChar (c.toNat % 16)] := by
  have hall : ∀ n < 0x20, List.replicate (4 - (Nat.toDigits 16 n).length) '0' ++ Nat.toDigits 16 n =
      ['0', '0', Nat.digitChar (n / 16), Nat.digitChar (n % 16)] := by decide
  rw [unicodeEscape, hall c.toNat h]

theorem foldlM_unicodeEscape {c : Char} (h : c.toNat < 0x20) (tokens : List Token) (units : List Unit16) :
    (unicodeEscape c).foldlM Scanner.step ⟨tokens, .string units⟩ =
      some ⟨tokens, .string (units ++ [.unit c.toNat])⟩ := by
  have hhigh : hexDigit (Nat.digitChar (c.toNat / 16)) = some (c.toNat / 16) := hexDigit_digitChar (by omega)
  have hlow : hexDigit (Nat.digitChar (c.toNat % 16)) = some (c.toNat % 16) := hexDigit_digitChar (by omega)
  have hzero : hexDigit '0' = some 0 := rfl
  have hvalue : 16 * (c.toNat / 16) + c.toNat % 16 = c.toNat := Nat.div_add_mod ..
  rw [unicodeEscape_eq h]
  simp [Scanner.step, hhigh, hlow, hzero, hvalue]

/-- A character of a string literal is read as itself. -/
theorem foldlM_escapeChar (c : Char) (tokens : List Token) (units : List Unit16) :
    (escapeChar c).foldlM Scanner.step ⟨tokens, .string units⟩ =
      some ⟨tokens, .string (units ++ [unitOf c])⟩ := by
  unfold escapeChar
  split
  next hc => subst hc; rfl
  split
  next hc => subst hc; rfl
  split
  next hc => subst hc; rfl
  split
  next hc => subst hc; rfl
  split
  next hc => subst hc; rfl
  split
  next hc => subst hc; rfl
  split
  next hc => subst hc; rfl
  split
  next hquote hback hb hf hn hr ht hlow =>
    have hunit : unitOf c = .unit c.toNat := by simp [unitOf, isUnnamed, hlow, hb, hf, hn, hr, ht]
    rw [hunit, foldlM_unicodeEscape hlow]
  next hquote hback _ _ _ _ _ hlow =>
    have hunit : unitOf c = .char c := by simp [unitOf, isUnnamed, hlow]
    rw [hunit]
    simp [Scanner.step, hquote, hback, hlow]

theorem foldlM_flatMap_escapeChar (text : List Char) (tokens : List Token) (units : List Unit16) :
    (text.flatMap escapeChar).foldlM Scanner.step ⟨tokens, .string units⟩ =
      some ⟨tokens, .string (units ++ text.map unitOf)⟩ := by
  induction text generalizing units with
  | nil => simp
  | cons c rest ih =>
    rw [List.flatMap_cons, foldlM_append_of_eq_some (foldlM_escapeChar c tokens units), ih]
    simp

/-- A code unit that is no half of a surrogate pair stands for its character, whatever follows. -/
theorem textOfUnits_unit {n : Nat} (h : n < 0xD800) (rest : List Unit16) :
    textOfUnits (.unit n :: rest) = (textOfUnits rest).map (Char.ofNat n :: ·) := by
  have hhigh : ¬(0xD800 ≤ n ∧ n < 0xDC00) := by omega
  have hlow : ¬(0xDC00 ≤ n ∧ n < 0xE000) := by omega
  have hhalf : ¬(0xD800 ≤ n ∧ n < 0xE000) := by omega
  cases rest with
  | nil => simp [textOfUnits, hhalf]
  | cons next rest =>
    cases next with
    | char c => simp [textOfUnits, hhalf]
    | unit low => rw [textOfUnits, if_neg hhigh, if_neg hlow]

/-- What is read for the characters of a text spells the text. -/
theorem textOfUnits_map_unitOf (text : List Char) : textOfUnits (text.map unitOf) = some text := by
  induction text with
  | nil => rfl
  | cons c rest ih =>
    rw [List.map_cons, unitOf]
    split
    next hc =>
      have hlow : c.toNat < 0xD800 := by
        simp only [isUnnamed, Bool.and_eq_true, decide_eq_true_eq] at hc
        omega
      rw [textOfUnits_unit hlow, ih, Char.ofNat_toNat]
      rfl
    · rw [textOfUnits, ih]
      rfl

/-- A string literal is read as the token of its text. -/
theorem foldlM_literal (text : Text) (tokens : List Token) :
    (literal text).foldlM Scanner.step ⟨tokens, .between⟩ = some ⟨.string text :: tokens, .between⟩ := by
  cases text with
  | none =>
    have hd : hexDigit 'd' = some 13 := rfl
    have h8 : hexDigit '8' = some 8 := rfl
    have h0 : hexDigit '0' = some 0 := rfl
    have hhalf : textOfUnits [.unit 0xD800] = none := rfl
    have hspelling : literal none = ['\x22', '\\', 'u', 'd', '8', '0', '0', '\x22'] := rfl
    have hopen : Scanner.step ⟨tokens, .between⟩ '\x22' = some ⟨tokens, .string []⟩ := rfl
    rw [hspelling, List.foldlM_cons, hopen]
    simp [Scanner.step, hd, h8, h0, hhalf]
  | some s =>
    have hspelling : literal (some s) = '\x22' :: (s.toList.flatMap escapeChar ++ ['\x22']) := rfl
    have hopen : Scanner.step ⟨tokens, .between⟩ '\x22' = some ⟨tokens, .string []⟩ := rfl
    rw [hspelling, List.foldlM_cons, hopen]
    simp only [Option.bind_eq_bind, Option.bind_some]
    rw [foldlM_append_of_eq_some (foldlM_flatMap_escapeChar s.toList tokens [])]
    simp [Scanner.step, textOfUnits_map_unitOf]

/-! ### Numbers -/

/-- How far some characters come that begin a number. -/
def digits? : List Char → Option Digits
  | [] => none
  | c :: rest => (Digits.start? c).bind (rest.foldlM Digits.next ·)

def isNumber (spelling : List Char) : Bool := (digits? spelling).any Digits.complete

theorem digits?_concat {spelling : List Char} (h : spelling ≠ []) (c : Char) :
    digits? (spelling ++ [c]) = (digits? spelling).bind (·.next c) := by
  cases spelling with
  | nil => exact absurd rfl h
  | cons first rest =>
    simp only [List.cons_append, digits?, List.foldlM_append, Option.bind_assoc]
    simp

/-- Decimal digits spell a number, of which only zero begins with a zero. -/
theorem digits?_toDigits (n : Nat) : digits? (Nat.toDigits 10 n) = some (if n = 0 then .zero else .whole) := by
  induction n using Nat.strongRecOn with
  | ind n ih =>
    rw [Nat.toDigits_eq_if (by decide)]
    split
    next h =>
      have hone : ∀ n < 10, digits? [Nat.digitChar n] = some (if n = 0 then .zero else .whole) := by decide
      exact hone n h
    next h =>
      have hmore : ∀ d < 10, Digits.whole.next (Nat.digitChar d) = some .whole := by decide
      rw [digits?_concat Nat.toDigits_ne_nil, ih (n / 10) (by omega), if_neg (by omega), if_neg (by omega)]
      exact hmore _ (Nat.mod_lt _ (by decide))

theorem isNumber_toDigits (n : Nat) : isNumber (Nat.toDigits 10 n) = true := by
  rw [isNumber, digits?_toDigits]
  split <;> rfl

theorem enter_of_start? {c : Char} {digits : Digits} (h : Digits.start? c = some digits) (tokens : List Token) :
    Scanner.enter tokens c = some ⟨tokens, .number [c] digits⟩ := by
  have hne : ∀ other, Digits.start? other = none → c ≠ other := by
    rintro other ho rfl
    rw [ho] at h
    cases h
  have hspace : isSpace c = false := by
    simp [isSpace, hne ' ' rfl, hne '\n' rfl, hne '\t' rfl, hne '\r' rfl]
  simp [Scanner.enter, hspace, hne '\x7b' rfl, hne '\x7d' rfl, hne '[' rfl, hne ']' rfl, hne ':' rfl,
    hne ',' rfl, hne '\x22' rfl, h]

theorem foldlM_digits {rest : List Char} {begun digits : Digits} (h : rest.foldlM Digits.next begun = some digits)
    (spelling : List Char) (tokens : List Token) :
    rest.foldlM Scanner.step ⟨tokens, .number spelling begun⟩ = some ⟨tokens, .number (spelling ++ rest) digits⟩ := by
  induction rest generalizing spelling begun with
  | nil =>
    cases h
    simp
  | cons c rest ih =>
    rw [List.foldlM_cons] at h ⊢
    cases hn : begun.next c with
    | none => rw [hn] at h; cases h
    | some next =>
      rw [hn] at h
      have hstep : Scanner.step ⟨tokens, .number spelling begun⟩ c = some ⟨tokens, .number (spelling ++ [c]) next⟩ := by
        simp [Scanner.step, hn]
      rw [hstep]
      simpa using ih h (spelling ++ [c])

/-- The characters of a number are all read. -/
theorem foldlM_number {spelling : List Char} {digits : Digits} (h : digits? spelling = some digits)
    (tokens : List Token) :
    spelling.foldlM Scanner.step ⟨tokens, .between⟩ = some ⟨tokens, .number spelling digits⟩ := by
  cases spelling with
  | nil => cases h
  | cons c rest =>
    obtain ⟨begun, hb, hrest⟩ := Option.bind_eq_some_iff.1 h
    have hstep : Scanner.step ⟨tokens, .between⟩ c = some ⟨tokens, .number [c] begun⟩ := enter_of_start? hb tokens
    rw [List.foldlM_cons, hstep]
    exact foldlM_digits hrest [c] tokens

end TableDesk.Json
