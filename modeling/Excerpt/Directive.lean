import Excerpt.Text.Line

/-! # Directives

A directive names an excerpt: `language[path](lines) selector`. The language, the line list and the selector
may be missing, the path may not. `Directive.parse?` reads one and `Directive.write` writes one; a malformed
line list is not an error, its bad entries are dropped and an unclosed one belongs to the selector. -/

namespace Excerpt

/-- How much of a declaration an excerpt shows. -/
inductive Mode where
  /-- The whole declaration. -/
  | full
  /-- The head of the declaration with a stub for its body. -/
  | outline
  /-- What stands between the outer braces. -/
  | content
deriving DecidableEq, Repr, Inhabited

/-- A request for an excerpt. -/
structure Directive where
  language : Text
  path : Text
  /-- Numbers of the lines to highlight, ascending and distinct. -/
  highlights : List Nat
  /-- The selector with its mode mark. -/
  selector : Text
  /-- Byte offset of the selector in the text of the directive, the end of that text if there is no selector.
  -/
  selectorOffset : Nat
deriving DecidableEq, Repr, Inhabited

namespace Directive

/-- Greatest line number that can be highlighted. -/
def maxLine : Nat := 4294967295

/-- The value of a digit. -/
def digit? (c : Char) : Option Nat :=
  if '0' ≤ c ∧ c ≤ '9' then some (c.toNat - '0'.toNat) else none

/-- The value of a non-empty run of digits, read from the left. -/
def digits? : Text → Option Nat
  | [] => none
  | t => t.foldlM (fun n c => (digit? c).map (10 * n + ·)) 0

/-- A line number: digits, perhaps after a plus sign, of a value that is not too large. -/
def lineNumber? (t : Text) : Option Nat :=
  let digits := match t with
    | '+' :: rest => rest
    | _ => t
  (digits? digits).filter (· ≤ maxLine)

/-- Adds a number to an ascending list without repetition. -/
def insertLine (n : Nat) : List Nat → List Nat
  | [] => [n]
  | m :: rest => if n < m then n :: m :: rest else if n = m then m :: rest else m :: insertLine n rest

/-- The line numbers of a list, ascending; entries that are no line number are dropped. -/
def lineNumbers (list : Text) : List Nat :=
  ((list.split ',').filterMap fun entry => lineNumber? entry.trim).foldr insertLine []

/-- Splits what follows the path into the highlighted lines and the rest. -/
def splitLines (rest : Text) : List Nat × Text :=
  match rest with
  | '(' :: list =>
    match Text.breakAt ')' list with
    | some (entries, tail) => (lineNumbers entries, tail)
    | none => ([], rest)
  | _ => ([], rest)

/-- Reads a directive; `none` without a `[`, a `]` after it, and some text between them. -/
def parse? (expression : Text) : Option Directive := do
  let (language, afterOpen) ← expression.breakAt '['
  let (path, rest) ← afterOpen.breakAt ']'
  if path.allBlank then none
  else
    let (highlights, tail) := splitLines rest
    let selector := tail.trim
    let offset := if selector.isEmpty then expression.byteLength
      else expression.byteLength - tail.trimStart.byteLength
    some ⟨language.trim, path.trim, highlights, selector, offset⟩

/-- The mode, given by the first character of the selector. -/
def mode (d : Directive) : Mode :=
  match d.selector with
  | '=' :: _ => .outline
  | '-' :: _ => .content
  | _ => .full

/-- The selector without its mode mark; empty for the whole file. -/
def memberPattern (d : Directive) : Text :=
  match d.mode with
  | .full => d.selector
  | _ => Text.trim d.selector.tail

/-- The text of a directive. -/
def write (language path : Text) (highlights : List Nat) (selector : Text) : Text :=
  let lines := if highlights.isEmpty then []
    else '(' :: Text.joinWith [','] (highlights.map Text.ofNat) ++ [')']
  language ++ '[' :: path ++ ']' :: lines ++ ' ' :: selector

end Directive

end Excerpt
