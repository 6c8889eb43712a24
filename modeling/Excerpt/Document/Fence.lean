import Excerpt.Text.Line

/-! # Code fences

In a Markdown document a fence of backticks or tildes opens a code block, and a fence that is at least as wide
closes it. `Block.cut` cuts the lines of a document into plain lines and blocks; a block that nothing closes
runs to the end. Nothing is lost (`flatMap_lines_cut`). -/

namespace Excerpt

/-- A fence that opens a code block. -/
structure Fence where
  /-- Number of spaces before the fence. -/
  indent : Nat
  /-- The character that the fence is made of. -/
  marker : Char
  /-- Number of its characters. -/
  width : Nat
  /-- What stands after it in the line. -/
  info : Text
  /-- Byte offset of that in the line. -/
  infoOffset : Nat
deriving DecidableEq, Repr, Inhabited

namespace Fence

/-- The line without line feeds and carriage returns at its end. -/
def lineContent (line : Text) : Text := Text.dropEndWhile (fun c => c == '\n' || c == '\r') line

/-- Greatest number of spaces before a fence. -/
def maxIndent : Nat := 3

/-- Least number of characters of a fence. -/
def minWidth : Nat := 3

/-- How often the character stands at the start of the text. -/
def leading (c : Char) (t : Text) : Nat := (t.takeWhile (· == c)).length

/-- The fence that a line opens a block with. -/
def ofLine? (line : Text) : Option Fence :=
  let content := lineContent line
  let indent := leading ' ' content
  match content.drop indent with
  | [] => none
  | marker :: rest =>
    let width := leading marker rest + 1
    let after := rest.drop (width - 1)
    let info := Text.trim after
    if indent ≤ maxIndent && (marker == '`' || marker == '~') && minWidth ≤ width &&
        !(marker == '`' && info.contains '`') then
      some ⟨indent, marker, width, info, indent + width + Text.byteLength (Text.indentation after)⟩
    else none

/-- Whether a line closes the block that the fence opens. -/
def isClosedBy (fence : Fence) (line : Text) : Bool :=
  let content := lineContent line
  let indent := leading ' ' content
  let rest := content.drop indent
  let width := leading fence.marker rest
  indent ≤ maxIndent && fence.width ≤ width && Text.allBlank (rest.drop width)

end Fence

/-- A plain line, or a code block. -/
inductive Block where
  | plain (line : Text)
  /-- The line of the fence, the lines inside, and the line that closes the block unless the document ends
  first. -/
  | code (fence : Fence) (first : Text) (body : List Text) (last : Option Text)
deriving DecidableEq, Repr, Inhabited

namespace Block

/-- The lines of the block. -/
def lines : Block → List Text
  | plain line => [line]
  | code _ first body last => first :: body ++ last.toList

/-- The lines up to the one that closes the block, that one, and the rest. -/
def cutBody (fence : Fence) : List Text → List Text × Option Text × List Text
  | [] => ([], none, [])
  | line :: rest =>
    if fence.isClosedBy line then ([], some line, rest)
    else
      let (body, last, rest) := cutBody fence rest
      (line :: body, last, rest)

theorem cutBody_lines (fence : Fence) (lines : List Text) :
    (cutBody fence lines).1 ++ (cutBody fence lines).2.1.toList ++ (cutBody fence lines).2.2 = lines := by
  induction lines with
  | nil => rfl
  | cons line rest ih =>
    unfold cutBody
    split
    · simp
    · simpa using ih

theorem length_cutBody_le (fence : Fence) (lines : List Text) :
    (cutBody fence lines).2.2.length ≤ lines.length := by
  conv => rhs; rw [← cutBody_lines fence lines]
  simp only [List.length_append]
  omega

/-- The plain lines and blocks of a document, given its lines. -/
def cut : List Text → List Block
  | [] => []
  | line :: rest =>
    match Fence.ofLine? line with
    | none => plain line :: cut rest
    | some fence =>
      have := length_cutBody_le fence rest
      code fence line (cutBody fence rest).1 (cutBody fence rest).2.1 :: cut (cutBody fence rest).2.2
termination_by lines => lines.length

theorem flatMap_lines_cut (lines : List Text) : (cut lines).flatMap Block.lines = lines := by
  fun_induction cut lines with
  | case1 => rfl
  | case2 line rest h ih => simp [Block.lines, ih]
  | case3 line rest fence h hle ih =>
    simp only [List.flatMap_cons, Block.lines, ih, List.cons_append, List.cons.injEq, true_and]
    exact cutBody_lines fence rest

end Block

end Excerpt
