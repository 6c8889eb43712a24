import Excerpt.Text.Line

/-! # Braces of the code

`codeBraces` finds the braces of a list of source lines that belong to the code: not those in comments, in
strings, or in character literals. The scanner reads one character at a time and keeps a `Context`; only block
comments and verbatim strings go on past the end of a line. -/

namespace Excerpt

namespace Snippet

/-- A brace of the code. -/
structure Brace where
  row : Nat
  /-- Byte offset in its line. -/
  column : Nat
  /-- Whether it is a `{`. -/
  isOpening : Bool
deriving DecidableEq, Repr, Inhabited

/-- What the scanner has just read. -/
inductive Context where
  | code
  /-- A slash of the code, which may open a comment. -/
  | slash
  | lineComment
  | blockComment
  /-- A star in a block comment, which may close it. -/
  | blockCommentStar
  | string
  | stringEscape
  | verbatimString
  /-- A quote in a verbatim string, which closes it unless another quote follows. -/
  | verbatimQuote
  | character
  | characterEscape
deriving DecidableEq, Repr, Inhabited

/-- Whether a quote after these characters, given from right to left, opens a verbatim string. -/
def opensVerbatim (before : Text) : Bool :=
  match before with
  | '@' :: _ => true
  | '$' :: '@' :: _ => true
  | _ => false

namespace Context

/-- The context at the start of the next line. -/
def atLineStart : Context → Context
  | .blockComment | .blockCommentStar => .blockComment
  | .verbatimString => .verbatimString
  | _ => .code

/-- Whether the next character belongs to the code, unless it completes the opening of a comment or a literal.
-/
def isCode : Context → Bool
  | .code | .slash | .verbatimQuote => true
  | _ => false

/-- The context after a character of the code; `before` holds the characters before it from right to left. -/
def afterCode (before : Text) (c : Char) : Context :=
  if c = '/' then .slash
  else if c = '"' then (if opensVerbatim before then .verbatimString else .string)
  else if c = '\'' then .character
  else .code

/-- The context after the character `c`. -/
def next (before : Text) (context : Context) (c : Char) : Context :=
  match context with
  | .code => afterCode before c
  | .slash => if c = '/' then .lineComment else if c = '*' then .blockComment else afterCode before c
  | .lineComment => .lineComment
  | .blockComment => if c = '*' then .blockCommentStar else .blockComment
  | .blockCommentStar => if c = '/' then .code else if c = '*' then .blockCommentStar else .blockComment
  | .string => if c = '\\' then .stringEscape else if c = '"' then .code else .string
  | .stringEscape => .string
  | .verbatimString => if c = '"' then .verbatimQuote else .verbatimString
  | .verbatimQuote => if c = '"' then .verbatimString else afterCode before c
  | .character => if c = '\\' then .characterEscape else if c = '\'' then .code else .character
  | .characterEscape => .character

end Context

/-- Scans the rest of line `row` from `column` on. -/
def scanLine (row : Nat) (before : Text) (column : Nat) (context : Context) : Text → List Brace × Context
  | [] => ([], context)
  | c :: rest =>
    let (braces, final) := scanLine row (c :: before) (column + c.utf8Size) (context.next before c) rest
    if context.isCode && (c == '{' || c == '}') then (⟨row, column, c == '{'⟩ :: braces, final)
    else (braces, final)

/-- Scans the lines from number `row` on. -/
def scanLines (row : Nat) (context : Context) : List Text → List Brace
  | [] => []
  | line :: rest =>
    let (braces, context) := scanLine row [] 0 context.atLineStart line
    braces ++ scanLines (row + 1) context rest

/-- The braces of the code, in source order. -/
def codeBraces (lines : List Text) : List Brace := scanLines 0 .code lines

end Snippet

end Excerpt
