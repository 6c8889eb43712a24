import Excerpt.Source.Rule
import Excerpt.Source.Terminal

/-! # Forms

What a rule of the grammar looks like: a terminal, a reference to a rule, or sequences, choices, options and
repetitions of forms. Below are the forms that many rules share, such as lists with commas. -/

namespace Excerpt

namespace Source

/-- What a piece of source looks like. -/
inductive Form where
  | terminal (terminal : Terminal)
  | rule (rule : Rule)
  | seq (forms : List Form)
  | choice (forms : List Form)
  | opt (form : Form)
  | many (form : Form)
deriving Repr, Inhabited

/-- Rules of the grammar with their forms. -/
abbrev RuleTable := List (Rule × Form)

namespace Form

/-- A keyword. -/
def key (word : String) : Form := .terminal (.keyword word)

/-- A symbol. -/
def sym (text : String) : Form := .terminal (.symbol text)

/-- An opening brace. -/
def openBrace : Form := sym "\x7b"

/-- A closing brace. -/
def closeBrace : Form := sym "\x7d"

/-- A sign and a name that open a preprocessor line. -/
def line (name : String) : Form := .terminal (.directive name)

/-- The end of a line. -/
def lineEnd : Form := .terminal .lineEnd

/-- One of the keywords. -/
def anyKey (words : List String) : Form := .choice (words.map key)

/-- One of the symbols. -/
def anySym (texts : List String) : Form := .choice (texts.map sym)

/-- The form at least once. -/
def some (form : Form) : Form := .seq [form, .many form]

/-- The form at least once, with commas between. -/
def commas (form : Form) : Form := .seq [form, .many (.seq [sym ",", form])]

/-- Any number of the form, with commas between. -/
def optCommas (form : Form) : Form := .opt (commas form)

/-- The form in round brackets. -/
def round (form : Form) : Form := .seq [sym "(", form, sym ")"]

/-- The form in square brackets. -/
def square (form : Form) : Form := .seq [sym "[", form, sym "]"]

/-- The form in braces. -/
def braces (form : Form) : Form := .seq [openBrace, form, closeBrace]

/-- A conditional region, the part of it under `#else`, and that under `#elif`, with the given content. -/
def region (content : Form) (region elsePart elifPart : Rule) : RuleTable :=
  let others := Form.opt (.choice [.rule elsePart, .rule elifPart])
  [(region, .seq [line "if", .rule .condition, lineEnd, content, others, line "endif"]),
    (elsePart, .seq [line "else", content]),
    (elifPart, .seq [line "elif", .rule .condition, lineEnd, content, others])]

end Form

end Source

end Excerpt
