import Excerpt.Text.EscapeTable

/-! # Quoted text

`Text.quote` writes a text between double quotes so that every character of it can be seen: quotes,
backslashes and the common control characters get a backslash, and what cannot be shown stands as its code
point in braces. -/

namespace Excerpt

namespace Text

/-- The hexadecimal digits of a number, in lower case. -/
def hex (n : Nat) : Text := Nat.toDigits 16 n

/-- How a quoted text shows a character. -/
def quoteChar (c : Char) : Text :=
  match c with
  | '"' => "\\\"".toList
  | '\\' => "\\\\".toList
  | '\t' => "\\t".toList
  | '\n' => "\\n".toList
  | '\r' => "\\r".toList
  | _ =>
    if c.toNat = 0 then "\\0".toList
    else if inRanges escapedRanges c then "\\u\x7b".toList ++ hex c.toNat ++ "\x7d".toList
    else [c]

/-- The text between quotes, with what cannot be shown escaped. -/
def quote (t : Text) : Text := '"' :: t.flatMap quoteChar ++ ['"']

end Text

end Excerpt
