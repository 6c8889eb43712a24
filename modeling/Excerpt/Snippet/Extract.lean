import Excerpt.Directive
import Excerpt.Snippet.Brace
import Excerpt.Snippet.Indent
import Excerpt.Span

/-! # Extracting spans

`extractSpan` turns a span of a source into the text of a snippet: the lines of the span, shaped as the mode
asks, without blank lines at the ends and without common indentation. `extractSpans` does so for several spans
in source order, each start once, with a blank line between two. -/

namespace Excerpt

namespace Snippet

/-- Stands in place of a body. -/
def elision : Text := "// ...".toList

/-- The part of the last line of a text. -/
def lastLine (t : Text) : Text := (t.reverse.takeWhile (· ≠ '\n')).reverse

/-- The text of a span, with the indentation of its first line if nothing else precedes it there. Ends past
the source are moved back; a span that cuts a character has no text. -/
def spanText (source : Text) (span : Span) : Text :=
  let stop := min span.stop source.byteLength
  let start := min span.start stop
  if Text.isBoundary start source && Text.isBoundary stop source then
    let lead := lastLine (Text.takeBytes start source)
    let body := Text.slice start stop source
    if lead.allBlank then lead ++ body else body
  else []

/-- The text before the first `=>`. -/
def beforeArrow? : Text → Option Text
  | '=' :: '>' :: _ => some []
  | [] => none
  | c :: rest => (beforeArrow? rest).map (c :: ·)

/-- A line without blank characters and semicolons that end it. -/
def dropSemicolons (line : Text) : Text := Text.trimEnd (Text.dropEndWhile (· == ';') line)

/-- The lines up to the first arrow, or up to the semicolon that ends them. -/
def signature : List Text → List Text
  | [] => []
  | line :: rest =>
    match beforeArrow? line with
    | some head => if Text.allBlank head then [] else [Text.trimEnd head]
    | none => if rest.isEmpty then [dropSemicolons line.trimEnd] else line.trimEnd :: signature rest

/-- The head of a declaration and a stub for its body. -/
def outline (lines : List Text) : List Text :=
  match lines with
  | [] => []
  | first :: _ =>
    let indent := first.indentation
    let head := match (codeBraces lines).find? (·.isOpening) with
      | some brace =>
        lines.take brace.row ++ ((lines.drop brace.row).take 1).map (Text.takeBytes (brace.column + 1))
      | none => signature lines ++ [indent ++ ['{']]
    head ++ [indent ++ "    ".toList ++ elision, indent ++ ['}']]

/-- The lines with text among the given ones, trimmed by `f`. -/
def keepText (f : Text → Text) (line : Text) : List Text := if line.allBlank then [] else [f line]

/-- What stands between the first opening and the last closing brace of the code. -/
def content (lines : List Text) : List Text :=
  let braces := codeBraces lines
  match braces.find? (·.isOpening), braces.reverse.find? (fun b => !b.isOpening) with
  | some opening, some closing =>
    if opening.row = closing.row then
      ((lines.drop opening.row).take 1).flatMap fun line =>
        keepText Text.trim (Text.slice (opening.column + 1) closing.column line)
    else if closing.row < opening.row then []
    else
      let head := ((lines.drop opening.row).take 1).flatMap fun line =>
        keepText Text.trim (Text.dropBytes (opening.column + 1) line)
      let middle := (lines.take closing.row).drop (opening.row + 1)
      let tail := ((lines.drop closing.row).take 1).flatMap fun line =>
        keepText Text.trimEnd (Text.takeBytes closing.column line)
      dropBlankEnds (head ++ middle ++ tail)
  | _, _ => []

/-- The lines as the mode shows them. -/
def shape (mode : Mode) (lines : List Text) : List Text :=
  match mode with
  | .full => lines
  | .outline => outline lines
  | .content => content lines

/-- The snippet of a text. -/
def ofText (mode : Mode) (text : Text) : Text :=
  Text.joinWith ['\n'] (dedent (shape mode (dropBlankEnds text.lines)))

/-- The snippet of a span of a source. -/
def extractSpan (source : Text) (mode : Mode) (span : Span) : Text := ofText mode (spanText source span)

/-- The spans by ascending start; of several with one start the first. -/
def orderSpans (spans : List Span) : List Span :=
  dropRepeats (spans.mergeSort fun a b => a.start ≤ b.start)
where
  /-- Drops each span that starts where the one before it does. -/
  dropRepeats : List Span → List Span
    | [] => []
    | span :: rest =>
      span :: match dropRepeats rest with
        | [] => []
        | next :: others => if next.start = span.start then others else next :: others

/-- The snippet of several spans of a source. -/
def extractSpans (source : Text) (mode : Mode) (spans : List Span) : Text :=
  Text.joinWith ['\n', '\n'] ((orderSpans spans).map (extractSpan source mode))

end Snippet

end Excerpt
