/-! # Spans

A span is a range of byte offsets in a source. Ends need not be in order: `length` of a reversed span is zero.
-/

namespace Excerpt

/-- The bytes of a source from `start` up to, but not including, `stop`. -/
structure Span where
  start : Nat
  stop : Nat
deriving DecidableEq, Repr, Inhabited

namespace Span

/-- Number of bytes, zero if the ends are reversed. -/
def length (s : Span) : Nat := s.stop - s.start

/-- Whether the span has no bytes. -/
def isEmpty (s : Span) : Bool := s.length == 0

end Span

end Excerpt
