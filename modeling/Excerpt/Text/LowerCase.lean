import Excerpt.Text.CaseTable

/-! # Lower case

`Text.lowerCase` is the full lower-case mapping of Unicode. All characters are mapped on their own except the
capital sigma, whose form depends on whether it ends a word. -/

namespace Excerpt

namespace Text

/-- The lower-case form of a character outside of any context. -/
def lowerChar (c : Char) : Text :=
  if c.toNat = 0x130 then ['i', Char.ofNat 0x307]
  else match lowerRanges.find? (·.holds c.toNat) with
    | some range => [Char.ofNat ((c.toNat : Int) + range.offset).toNat]
    | none => [c]

/-- Whether the text has a letter with case after the characters that are passed over. -/
def startsCased (t : Text) : Bool :=
  match t.dropWhile (inRanges ignorableRanges) with
  | c :: _ => inRanges casedRanges c
  | [] => false

/-- The lower-case form of a capital sigma between two texts, the first of which comes from right to left. It
is the final form if only a letter before it belongs to its word. -/
def lowerSigma (before after : Text) : Char :=
  Char.ofNat (if startsCased before && !startsCased after then 0x3C2 else 0x3C3)

/-- The lower-case form of a text that follows `before`, which comes from right to left. -/
def lowerFrom (before : Text) : Text → Text
  | [] => []
  | c :: rest =>
    (if c.toNat = 0x3A3 then [lowerSigma before rest] else lowerChar c) ++ lowerFrom (c :: before) rest

/-- The lower-case form of a text. -/
def lowerCase (t : Text) : Text := lowerFrom [] t

end Text

end Excerpt
