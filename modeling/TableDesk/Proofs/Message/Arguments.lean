import TableDesk.Confirmation
import TableDesk.Proofs.Message.BuiltIn
import TableDesk.Proofs.Text.Template

/-!
The arguments of a message are inserted and never read. A template has one sequence of pieces, whatever the
arguments, so a table name that looks like a placeholder or a quotation changes nothing in the message around
it.
-/

namespace TableDesk.Message

/-- The question before a deletion is plain text around one placeholder. -/
theorem exists_confirmBody_eq (language : Language) :
    ∃ before after : String, language.text .deleteConfirmBody = before ++ "\x7b0\x7d" ++ after ∧
      Text.IsPlain before.toList ∧ Text.IsPlain after.toList := by
  cases language with
  | english =>
    exact ⟨"The following tables and all of their data will be deleted: ", ". This cannot be undone.", by rfl,
      by decide, by decide⟩
  | chinese => exact ⟨"以下数据表及其全部数据将被删除：", "。此操作无法撤销。", by rfl, by decide, by decide⟩

/-- The grammar allows one reading of a template, and a message is made of its pieces with the arguments in
their places. The question before a deletion holds the joined names as they are, whatever the names. -/
theorem arguments_are_inserted_verbatim :
    (∀ template : String, ∃ ps : List Text.Piece, (∀ qs, Text.IsRead template.toList qs ↔ qs = ps) ∧
      ∀ args : List String,
        Text.formatMessage template args = String.join (ps.map (Text.Piece.shown args))) ∧
    ∀ language : Language, ∃ before after : String,
      language.text .deleteConfirmBody = before ++ "\x7b0\x7d" ++ after ∧
      ∀ names : List String,
        language.builtIn.resolve Confirmation.Wording.deletion.confirmBody [", ".intercalate names] =
          .ok (before ++ ", ".intercalate names ++ after) := by
  constructor
  · intro template
    exact ⟨Text.pieces template.toList, fun _ => Text.isRead_iff, Text.formatMessage_eq_join template⟩
  · intro language
    obtain ⟨before, after, htext, hb, ha⟩ := exists_confirmBody_eq language
    refine ⟨before, after, htext, fun names => ?_⟩
    have hget : language.builtIn.get? Confirmation.Wording.deletion.confirmBody =
        some (language.text .deleteConfirmBody) := language.get?_builtIn .deleteConfirmBody
    rw [Catalog.resolve, hget, htext]
    exact congrArg Except.ok (Text.formatMessage_placeholder hb ha (", ".intercalate names))

example : Text.formatMessage "It''s '\x7b0\x7d': \x7b +0\x7d, \x7b1\x7d" ["'\x7b0\x7d''"] =
    "It's \x7b0\x7d: '\x7b0\x7d'', \x7b1\x7d" := by decide

end TableDesk.Message
