import Excerpt.Text.Line

/-! # Indentation

`dedent` removes from every line the indentation that all lines with text in them share. It counts characters,
so a tab and an ideographic space are one each. -/

namespace Excerpt

namespace Snippet

/-- The least number of blank characters before the text of a line; none if no line has text. -/
def commonIndent? (lines : List Text) : Option Nat :=
  ((lines.filter fun line => !line.allBlank).map fun line => line.indentation.length).min?

/-- The lines without the indentation that they share. A blank line may be shorter than that. -/
def dedent (lines : List Text) : List Text :=
  lines.map fun line => line.drop ((commonIndent? lines).getD 0)

/-- The lines without the blank ones at both ends. -/
def dropBlankEnds (lines : List Text) : List Text :=
  ((lines.dropWhile Text.allBlank).reverse.dropWhile Text.allBlank).reverse

end Snippet

end Excerpt
