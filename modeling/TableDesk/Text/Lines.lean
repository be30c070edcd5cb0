/-!
Cutting a text after a separator, and the lines of a text. The pieces of `splitAfter` keep their
separators, so joining them gives the text back.
-/

namespace TableDesk.Text

/-- The pieces of a text, cut after every occurrence of the separator. The empty text has none. -/
def splitAfter (separator : Char) : List Char → List (List Char)
  | [] => []
  | c :: rest =>
    if c = separator then [c] :: splitAfter separator rest
    else
      match splitAfter separator rest with
      | [] => [[c]]
      | piece :: pieces => (c :: piece) :: pieces

/-- A line without its line feed, nor the carriage return before that line feed. -/
def dropLineEnd (line : List Char) : List Char :=
  match line.reverse with
  | '\n' :: '\r' :: rest => rest.reverse
  | '\n' :: rest => rest.reverse
  | _ => line

/-- The lines of a text. A line feed at the very end opens no further line. -/
def lines (text : List Char) : List (List Char) :=
  (splitAfter '\n' text).map dropLineEnd

/-- Joining the pieces gives the text back. -/
theorem flatten_splitAfter (separator : Char) (text : List Char) :
    (splitAfter separator text).flatten = text := by
  induction text with
  | nil => rfl
  | cons c rest ih =>
    rw [splitAfter]
    split
    · simp [ih]
    · split
      · next h => rw [h] at ih; simpa using ih
      · next piece pieces h => rw [h] at ih; simpa using ih

end TableDesk.Text
