import Excerpt.Source.Node

/-! # Backends

A parser of C# and a score for how alike two texts are do not belong to the program, which takes them as they come
(`Backend`). Nothing is assumed of them. In particular a source can have any syntax tree, also one that a parser made
of a malformed source after it passed over what it could not read. But every source has a tree, so there is no error
for one that cannot be parsed at all. -/

namespace Excerpt

/-- What the program takes from elsewhere. -/
class Backend where
  /-- The syntax tree of a source. -/
  parse (source : Text) : Source.Node
  /-- How alike two texts are. -/
  likeness (s t : Text) : Float

end Excerpt
