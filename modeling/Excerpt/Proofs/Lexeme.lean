import Excerpt.Snippet.Extract
import Mathlib.Data.List.Infix

/-!
# Lexemes

A source text is a sequence of lexemes: single characters of the code, comments, and literals. `Lexeme.Fits` says
that a lexeme is complete and keeps apart from what stands around it, and `Lexeme.Sequence` that a whole list of
them does. `Lexeme.braces` gives the braces of the code in such a list, each at the row and the column that the text
before it determines.
-/

namespace Excerpt

namespace Snippet

/-- What can stand between the quotes of a literal that ends on its line: a backslash escapes the character after
it. -/
inductive EscapedBody (quote : Char) : Text → Prop
  | nil : EscapedBody quote []
  | plain {c : Char} {t : Text} (hq : c ≠ quote) (he : c ≠ '\\') (hn : c ≠ '\n') (ht : EscapedBody quote t) :
      EscapedBody quote (c :: t)
  | escape {c : Char} {t : Text} (hn : c ≠ '\n') (ht : EscapedBody quote t) : EscapedBody quote ('\\' :: c :: t)

/-- What can stand between the quotes of a verbatim string: a quote is written twice. -/
inductive VerbatimBody : Text → Prop
  | nil : VerbatimBody []
  | plain {c : Char} {t : Text} (hq : c ≠ '"') (ht : VerbatimBody t) : VerbatimBody (c :: t)
  | quote {t : Text} (ht : VerbatimBody t) : VerbatimBody ('"' :: '"' :: t)

/-- A piece of a source text. -/
inductive Lexeme where
  | code (c : Char)
  /-- From two slashes to a line feed. -/
  | lineComment (body : Text)
  | blockComment (body : Text)
  | string (interpolated : Bool) (body : Text)
  /-- The opening is what stands before the first quote. -/
  | verbatim (opening body : Text)
  | character (body : Text)
deriving DecidableEq, Repr, Inhabited

namespace Lexeme

/-- The characters of the lexeme. -/
def text : Lexeme → Text
  | code c => [c]
  | lineComment body => '/' :: '/' :: body ++ ['\n']
  | blockComment body => '/' :: '*' :: body ++ ['*', '/']
  | string interpolated body => (if interpolated then ['$'] else []) ++ '"' :: body ++ ['"']
  | verbatim opening body => opening ++ '"' :: body ++ ['"']
  | character body => '\'' :: body ++ ['\'']

/-- The lexeme is complete and keeps apart from the text before it and the text after it. -/
def Fits (before after : Text) : Lexeme → Prop
  | code c => c ≠ '"' ∧ c ≠ '\'' ∧ (c = '/' → ¬ ['/'] <+: after ∧ ¬ ['*'] <+: after)
  | lineComment body => '\n' ∉ body
  | blockComment body => ¬ ['*', '/'] <:+: body
  | string _ body => EscapedBody '"' body ∧ ¬ ['@'] <:+ before ∧ ¬ ['@', '$'] <:+ before
  | verbatim opening body => opening ∈ [['@'], ['$', '@'], ['@', '$']] ∧ VerbatimBody body ∧ ¬ ['"'] <+: after
  | character body => EscapedBody '\'' body

/-- Every lexeme of the list fits, the first one after the text `before`. -/
def Sequence (before : Text) : List Lexeme → Prop
  | [] => True
  | e :: rest => e.Fits before (rest.flatMap text) ∧ Sequence (before ++ e.text) rest

end Lexeme

/-- The brace that a character is, if it is one, after the text `before`: its row is the number of line feeds
before it and its column the number of bytes since the last one. -/
def braceAfter (before : Text) (c : Char) : List Brace :=
  if c = '{' ∨ c = '}' then [⟨before.count '\n', (lastLine before).byteLength, c == '{'⟩] else []

namespace Lexeme

/-- The lexeme itself, if it is a brace of the code. -/
def brace (before : Text) : Lexeme → List Brace
  | code c => braceAfter before c
  | _ => []

/-- The braces of the code in a list of lexemes after the text `before`. -/
def braces (before : Text) : List Lexeme → List Brace
  | [] => []
  | e :: rest => e.brace before ++ braces (before ++ e.text) rest

end Lexeme

@[simp] theorem lastLine_lineFeed (t : Text) : lastLine (t ++ ['\n']) = [] := by simp [lastLine]

theorem lastLine_concat {c : Char} (h : c ≠ '\n') (t : Text) : lastLine (t ++ [c]) = lastLine t ++ [c] := by
  simp [lastLine, h]

theorem opensVerbatim_cons {c : Char} {before : Text} :
    opensVerbatim (c :: before) ↔ c = '@' ∨ c = '$' ∧ before.head? = some '@' := by
  unfold opensVerbatim
  split
  next h => cases h; simp
  next h => cases h; simp
  next h₁ h₂ =>
    refine iff_of_false (by simp) ?_
    rintro (rfl | ⟨rfl, h⟩)
    · exact h₁ before rfl
    · obtain ⟨l, rfl⟩ := List.head?_eq_some_iff.1 h
      exact h₂ l rfl

/-- A quote opens a verbatim string if an at sign stands before it, or one with a dollar sign after it. -/
theorem opensVerbatim_lastLine (t : Text) :
    opensVerbatim (lastLine t).reverse ↔ ['@'] <:+ t ∨ ['@', '$'] <:+ t := by
  have h₁ : ['@'] <:+ t ↔ ['@'] <+: t.reverse := List.reverse_prefix.symm
  have h₂ : ['@', '$'] <:+ t ↔ ['$', '@'] <+: t.reverse := List.reverse_prefix.symm
  rw [h₁, h₂, lastLine, List.reverse_reverse]
  cases t.reverse with
  | nil => simp [opensVerbatim]
  | cons c r =>
    by_cases hc : c = '\n'
    · subst hc; simp [opensVerbatim]
    · rw [List.takeWhile_cons_of_pos (by simpa using hc), opensVerbatim_cons]
      cases r with
      | nil => simp [eq_comm]
      | cons d r => by_cases hd : d = '\n' <;> simp [hd, eq_comm]

end Snippet

end Excerpt
