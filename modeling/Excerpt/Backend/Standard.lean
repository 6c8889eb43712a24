import Excerpt.Backend
import Excerpt.Source.Grammar
import Excerpt.Text.Similarity

/-! # The backend of the program

The program parses a source by `Source.Grammar`, which does not read on after what is malformed, and compares texts by
`Text.similarity`. -/

namespace Excerpt

/-- The syntax tree of a source. A malformed source has no members that can be addressed. -/
def Source.Grammar.parse (source : Text) : Node := (file? source).getD (.leaf .file ⟨0, source.byteLength⟩)

instance Backend.standard : Backend where
  parse := Source.Grammar.parse
  likeness := Text.similarity

end Excerpt
