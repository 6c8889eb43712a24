import Excerpt.Text.Blank

/-! # Lines

A line feed ends a line. `rawLines` keeps the line ends, so the lines of a text concatenate to it
(`flatten_rawLines`); `lines` drops them, and with each line feed one carriage return before it. -/

namespace Excerpt

namespace Text

/-- The lines of the text, each with its line feed; the last one may lack it. -/
def rawLines : Text → List Text
  | [] => []
  | c :: t =>
    if c = '\n' then [c] :: rawLines t
    else match rawLines t with
      | [] => [[c]]
      | line :: rest => (c :: line) :: rest

/-- A line without its line feed and without one carriage return before that. -/
def dropLineEnd (line : Text) : Text :=
  match line.reverse with
  | '\n' :: '\r' :: t => t.reverse
  | '\n' :: t => t.reverse
  | _ => line

/-- The lines of the text without their ends. A line feed at the end of the text opens no further line. -/
def lines (t : Text) : List Text := t.rawLines.map dropLineEnd

@[simp] theorem rawLines_nil : rawLines [] = [] := rfl

theorem flatten_rawLines (t : Text) : (rawLines t).flatten = t := by
  induction t with
  | nil => rfl
  | cons c t ih =>
    unfold rawLines
    split
    · simp [ih]
    · split
      next h => simp_all
      next line rest h => simp_all

end Text

end Excerpt
