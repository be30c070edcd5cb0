import TableDesk.Proofs.Text.Template

/-!
Every text has a template that says it and nothing else, whatever the arguments. A text without an opening brace
is its own template. Any other one is put between apostrophes, with its own apostrophes doubled. The reader does
not see these apostrophes as they were written: where the text begins with apostrophes, the opening one goes into
a pair with the first of them, and only the last one before another character opens the quotation. A template
without apostrophes says itself as long as there are no arguments.
-/

namespace TableDesk.Text

/-- A text between apostrophes, with its own apostrophes doubled. -/
def quotation (text : String) : String := .ofList ('\x27' :: (doubled text.toList ++ ['\x27']))

theorem literals_cons (c : Char) (text : List Char) : literals (c :: text) = .literal [c] :: literals text := rfl

/-- A quotation is read as the characters of its text, unless these are apostrophes only. -/
theorem Reads.quoted {text : List Char} (h : ∃ c ∈ text, c ≠ '\x27') :
    Reads ('\x27' :: (doubled text ++ ['\x27'])) (literals text) := by
  induction text with
  | nil => simp at h
  | cons c rest ih =>
    by_cases hc : c = '\x27'
    -- the first apostrophe is read from the opening one and the first half of its own pair
    · subst hc
      have hrest : ∃ d ∈ rest, d ≠ '\x27' := by simpa using h
      rw [doubled_cons, if_pos rfl, literals_cons]
      exact .apostrophe (ih hrest)
    · have hread : Reads ('\x27' :: (doubled (c :: rest) ++ '\x27' :: [])) (literals (c :: rest) ++ []) :=
        .quotation (List.cons_ne_nil c rest) (by simpa using hc) (by simp) .nil
      simpa using hread

theorem formatMessage_quotation {text : String} (h : '\x7b' ∈ text.toList) (args : List String) :
    formatMessage (quotation text) args = text := by
  have hbrace : '\x7b' ∈ doubled text.toList :=
    List.mem_flatMap.2 ⟨'\x7b', h, by decide⟩
  have hread : IsRead (quotation text).toList (literals text.toList) := by
    rw [quotation, String.toList_ofList, IsRead, if_pos (by simp [hbrace])]
    exact .quoted ⟨'\x7b', h, by decide⟩
  rw [← String.toList_inj, formatMessage, String.toList_ofList, fill, ← isRead_iff.1 hread]
  exact flatMap_fill_literals _ _

/-- Without arguments, the pieces of a template without apostrophes are the template itself. -/
theorem Reads.flatMap_fill_nil {template : List Char} {ps : List Piece} (h : Reads template ps)
    (hquote : '\x27' ∉ template) : ps.flatMap (Piece.fill []) = template := by
  induction h with
  | nil => rfl
  | char _ _ _ ih => simpa [Piece.fill] using ih (List.not_mem_of_not_mem_cons hquote)
  | apostrophe | quotation | openQuotation => simp at hquote
  | @placeholder inner rest n ps _ _ _ ih | @braces inner rest ps _ _ _ ih =>
    have hrest : '\x27' ∉ rest := fun hm => hquote (by simp [hm])
    simpa [Piece.fill] using ih hrest
  | openBrace => simp [Piece.fill]

theorem formatMessage_nil {template : String} (h : '\x27' ∉ template.toList) : formatMessage template [] = template := by
  rw [← String.toList_inj, formatMessage, String.toList_ofList]
  by_cases hbrace : '\x7b' ∈ template.toList
  · have hread := isRead_iff.2 (rfl : pieces template.toList = _)
    rw [IsRead, if_pos hbrace] at hread
    exact hread.flatMap_fill_nil h
  · exact fill_of_not_mem hbrace _

/-- A text without an opening brace is its own template, and its quotation is a template of any other text,
whatever the arguments. Without arguments every template without apostrophes stands for itself. -/
theorem every_text_has_template :
    (∀ (text : String) (args : List String), '\x7b' ∉ text.toList → formatMessage text args = text) ∧
      (∀ (text : String) (args : List String), '\x7b' ∈ text.toList → formatMessage (quotation text) args = text) ∧
      ∀ template : String, '\x27' ∉ template.toList → formatMessage template [] = template := by
  refine ⟨fun text args h => ?_, fun text args h => formatMessage_quotation h args, fun template h => formatMessage_nil h⟩
  rw [formatMessage, fill_of_not_mem h, String.ofList_toList]

/-- Apostrophes without braces stay, those around and inside braces come back from the quotation, and braces
without arguments stay. -/
theorem apostrophes_and_braces_have_templates :
    ('\x7b' ∉ "It''s 'it'".toList ∧ formatMessage "It''s 'it'" ["x"] = "It''s 'it'") ∧
      ('\x7b' ∈ "''\x7b0\x7d'a''\x7b'".toList ∧ quotation "''\x7b0\x7d'a''\x7b'" = "'''''\x7b0\x7d''a''''\x7b'''" ∧
        formatMessage "'''''\x7b0\x7d''a''''\x7b'''" ["x"] = "''\x7b0\x7d'a''\x7b'") ∧
      ('\x27' ∉ "\x7b 0 \x7d \x7b\x7b1\x7d \x7b".toList ∧
        formatMessage "\x7b 0 \x7d \x7b\x7b1\x7d \x7b" [] = "\x7b 0 \x7d \x7b\x7b1\x7d \x7b") := by
  obtain ⟨hplain, hquoted, hempty⟩ := every_text_has_template
  have hspelling : quotation "''\x7b0\x7d'a''\x7b'" = "'''''\x7b0\x7d''a''''\x7b'''" := by decide
  refine ⟨⟨by decide, hplain _ _ (by decide)⟩, ⟨by decide, hspelling, ?_⟩, by decide, hempty _ (by decide)⟩
  rw [← hspelling]
  exact hquoted _ _ (by decide)

end TableDesk.Text
