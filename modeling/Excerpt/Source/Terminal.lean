import Excerpt.Span
import Excerpt.Text.NameTable

/-! # Terminals of C#

The smallest pieces of a source and how far each of them reaches (`Terminal.length?`). Which pieces can come
next depends on what has been read, so a piece is never looked for on its own: the last functions take the
terminals that can come next and say which of them stand at the start of a text. A word is a keyword where that
keyword can come next and a name anywhere else (`Terminal.words`). Of several symbols the longest counts
(`Terminal.longest`).

Some terminals are part of a literal and have to follow directly on what stands before them
(`Terminal.glued`); before all others there may be blank characters. -/

namespace Excerpt

namespace Source

/-! ### Strings with holes -/

/-- How the text of a string with holes is written. -/
inductive Quoting where
  /-- Between single quotation marks, with escapes. -/
  | regular
  /-- Between single quotation marks, with marks inside written twice. -/
  | verbatim
  /-- Between at least three quotation marks, with no escapes. -/
  | raw
deriving DecidableEq, Repr, Inhabited, Hashable

/-- A string with holes that has been opened. -/
structure OpenString where
  quoting : Quoting
  /-- Number of dollar signs, which is the number of braces around a hole. -/
  braces : Nat
  /-- Number of quotation marks at each end. -/
  marks : Nat
deriving DecidableEq, Repr, Inhabited

/-! ### The terminals -/

/-- The terminals of the grammar. -/
inductive Terminal where
  | keyword (word : String)
  /-- A keyword that names a type. -/
  | builtInType
  | name
  | symbol (text : String)
  | integer
  | real
  /-- The mark that opens a string. -/
  | openMark
  /-- The mark that closes a string. -/
  | closeMark
  | stringText
  | escape
  /-- The letters after a string that choose its encoding. -/
  | encoding
  | verbatimString
  | rawString
  /-- The mark at both ends of a character. -/
  | apostrophe
  | characterText
  /-- The signs and marks that open a string with holes. -/
  | openHoled (quoting : Quoting)
  | closeHoled
  | holedText
  | openHole
  | closeHole
  /-- The format in a hole. -/
  | format
  /-- The sign and the name that open a preprocessor line. -/
  | directive (name : String)
  /-- The rest of a preprocessor line. -/
  | lineText
  | lineEnd
  /-- The first line of a script. -/
  | shebang
  /-- A semicolon directly after a closing brace, or nothing. -/
  | optionalSemicolon
deriving DecidableEq, Repr, Inhabited, Hashable

namespace Terminal

/-- The keywords that name types. -/
def builtInTypes : List String :=
  ["bool", "byte", "char", "decimal", "double", "float", "int", "long", "nint", "nuint", "object", "sbyte",
    "short", "string", "uint", "ulong", "ushort", "void"]

/-- Whether the terminal has to follow directly on what stands before it. -/
def isGlued : Terminal → Bool
  | stringText | encoding | characterText | closeHoled | holedText | openHole | format
  | optionalSemicolon => true
  | _ => false

/-! ### Blank characters and comments -/

/-- Whether the character separates terminals. -/
def isSpace (c : Char) : Bool :=
  (9 ≤ c.toNat && c.toNat ≤ 13) || c == ' ' || c.toNat == 0xA0 || c.toNat == 0x3000 || c.toNat == 0xFEFF

/-- Number of blank characters at the start. -/
def blanks (t : Text) : Nat := (t.takeWhile isSpace).length

/-- Number of characters up to the end of a block comment whose opening has been read. -/
def blockCommentLength? : Text → Option Nat
  | [] => none
  | c :: t => if c = '*' ∧ t.head? = some '/' then some 2 else (blockCommentLength? t).map (· + 1)

/-- Length of the comment at the start. -/
def commentLength? (t : Text) : Option Nat :=
  match t with
  | '/' :: '/' :: rest => some (2 + (rest.takeWhile fun c => c != '\n' && c != '\r').length)
  | '/' :: '*' :: rest => (blockCommentLength? rest).map (· + 2)
  | _ => none

/-! ### Words -/

/-- Whether the character is a hexadecimal digit. -/
def isHexDigit (c : Char) : Bool := c.isDigit || ('a' ≤ c && c ≤ 'f') || ('A' ≤ c && c ≤ 'F')

/-- Length of the escape of a letter at the start of the text after a backslash. -/
def letterEscapeLength? (t : Text) : Option Nat :=
  let digits := (t.drop 1).takeWhile isHexDigit
  match t with
  | 'u' :: _ => if digits.length ≥ 4 then some 6 else none
  | 'U' :: _ => if digits.length ≥ 8 then some 10 else none
  | _ => none

/-- Whether a name can start with the character. -/
def startsName (c : Char) : Bool :=
  c.isAlpha || c == '_' || (c.toNat ≥ 128 && Text.inRanges Text.nameStartRanges c)

/-- Whether a name can go on with the character. -/
def continuesName (c : Char) : Bool :=
  c.isAlphanum || c == '_' ||
    (c.toNat ≥ 128 && (Text.inRanges Text.nameStartRanges c || Text.inRanges Text.nameRestRanges c))

/-- Number of characters with which a name goes on; `skip` of them belong to an escape. -/
def nameRest (skip : Nat) : Text → Nat
  | [] => 0
  | c :: t =>
    if skip > 0 then nameRest (skip - 1) t + 1
    else if continuesName c then nameRest 0 t + 1
    else if c = '\\' then
      match letterEscapeLength? t with
      | some n => nameRest (n - 1) t + 1
      | none => 0
    else 0

/-- Length of the name or keyword at the start. A name may have an at sign before it. -/
def wordLength? (t : Text) : Option Nat :=
  let sign := if t.head? = some '@' then 1 else 0
  match t.drop sign with
  | c :: rest =>
    let starts := startsName c || (c == '\\' && (letterEscapeLength? rest).isSome)
    if starts then some (sign + nameRest 0 (c :: rest)) else none
  | [] => none

/-! ### Numbers -/

/-- Length of a run of decimal digits, with underscores only inside. -/
def digitsLength (t : Text) : Nat :=
  let run := t.takeWhile fun c => c.isDigit || c == '_'
  if headIsDigit t then (run.reverse.dropWhile (· == '_')).length else 0
where
  /-- Whether the text starts with a digit. -/
  headIsDigit (t : Text) : Bool := (t.head?.map Char.isDigit).getD false

/-- Length of the digits in another base after a zero and a letter. -/
def basedLength (isDigit : Char → Bool) (t : Text) : Nat :=
  let run := t.takeWhile fun c => isDigit c || c == '_'
  (run.reverse.dropWhile (· == '_')).length

/-- Length of the letters that give an integer its type. -/
def integerSuffix (t : Text) : Nat :=
  match t with
  | a :: b :: _ =>
    if (isU a && isL b) || (isL a && isU b) then 2 else if isU a || isL a then 1 else 0
  | [a] => if isU a || isL a then 1 else 0
  | [] => 0
where
  /-- Whether the letter says that an integer has no sign. -/
  isU (c : Char) : Bool := c == 'u' || c == 'U'
  /-- Whether the letter says that an integer is long. -/
  isL (c : Char) : Bool := c == 'l' || c == 'L'

/-- Length of the integer at the start. -/
def integerLength? (t : Text) : Option Nat :=
  let digits := match t with
    | '0' :: letter :: rest =>
      let based := if letter == 'x' || letter == 'X' then basedLength isHexDigit rest
        else if letter == 'b' || letter == 'B' then basedLength (fun c => c == '0' || c == '1') rest
        else 0
      if based > 0 then based + 2 else digitsLength t
    | _ => digitsLength t
  if digits = 0 then none else some (digits + integerSuffix (t.drop digits))

/-- Length of the exponent at the start. -/
def exponentLength (t : Text) : Nat :=
  match t with
  | c :: rest =>
    if c != 'e' && c != 'E' then 0
    else
      let sign := if rest.head? = some '+' || rest.head? = some '-' then 1 else 0
      let digits := rest.drop sign
      if digitsLength digits = 0 then 0
      else 1 + sign + (digits.takeWhile fun d => d.isDigit || d == '_').length
  | [] => 0

/-- Length of the number with a fraction, an exponent or a letter for its type at the start. -/
def realLength? (t : Text) : Option Nat :=
  let whole := digitsLength t
  let fraction := match t.drop whole with
    | '.' :: rest => if digitsLength rest > 0 then digitsLength rest + 1 else 0
    | _ => 0
  let exponent := exponentLength (t.drop (whole + fraction))
  let length := whole + fraction + exponent
  let suffix := match t.drop length with
    | c :: _ => if "fFdDmM".toList.contains c then 1 else 0
    | [] => 0
  if fraction > 0 || (whole > 0 && exponent + suffix > 0) then some (length + suffix) else none

/-! ### Literals -/

/-- Length of the escape at the start. -/
def escapeLength? (t : Text) : Option Nat :=
  match t with
  | '\\' :: 'x' :: rest =>
    let digits := min 4 (rest.takeWhile isHexDigit).length
    if digits ≥ 2 then some (digits + 2) else none
  | '\\' :: c :: rest =>
    match letterEscapeLength? (c :: rest) with
    | some n => some n
    | none => if "abefnrtv'\"\\?0".toList.contains c then some 2 else none
  | _ => none

/-- Length of the letters for an encoding at the start. -/
def encodingLength? (t : Text) : Option Nat :=
  match t with
  | a :: '8' :: _ => if a == 'u' || a == 'U' then some 2 else none
  | _ => none

/-- Number of characters up to the end of a verbatim string whose opening has been read. -/
def verbatimLength? : Text → Option Nat
  | [] => none
  | '"' :: '"' :: t => (verbatimLength? t).map (· + 2)
  | c :: t => if c = '"' then some 1 else (verbatimLength? t).map (· + 1)

/-- Length of the run of a character at the start. -/
def runLength (c : Char) (t : Text) : Nat := (t.takeWhile (· == c)).length

/-- Number of characters up to the end of a raw string, given its number of marks and that of the marks that
have just been read. -/
def rawLength? (marks run : Nat) : Text → Option Nat
  | [] => if run = marks then some 0 else none
  | c :: t =>
    if c = '"' then (rawLength? marks (run + 1) t).map (· + 1)
    else if run = marks then some 0
    else (rawLength? marks 0 t).map (· + 1)

/-- Length of the raw string at the start. -/
def rawStringLength? (t : Text) : Option Nat :=
  let marks := runLength '"' t
  if marks < 3 then none else (rawLength? marks 0 (t.drop marks)).map (marks + ·)

/-- The string with holes that is opened at the start, and the length of its opening. An empty one in single
marks cannot be opened. -/
def openHoled? (t : Text) : Option (OpenString × Nat) :=
  let before := if t.head? = some '@' then 1 else 0
  let dollars := runLength '$' (t.drop before)
  let rest := t.drop (before + dollars)
  let after := if before = 0 && rest.head? = some '@' then 1 else 0
  let marks := runLength '"' (rest.drop after)
  let length := before + dollars + after
  if dollars = 0 || marks = 0 then none
  else if before + after > 0 then some (⟨.verbatim, dollars, 1⟩, length + 1)
  else if marks = 1 then some (⟨.regular, dollars, 1⟩, length + 1)
  else if marks = 2 then none
  else some (⟨.raw, dollars, marks⟩, length + marks)

/-- Number of characters of text in a string with holes, before its end, a hole or an escape. `skip` characters
are text whatever they are. -/
def holedTextLength (string : OpenString) (skip : Nat) : Text → Nat
  | [] => 0
  | c :: t =>
    if skip > 0 then holedTextLength string (skip - 1) t + 1
    else if c = '"' then
      let run := runLength '"' t + 1
      match string.quoting with
      | .regular => 0
      | .verbatim => if run ≥ 2 then holedTextLength string 1 t + 1 else 0
      | .raw => if run = string.marks then 0 else holedTextLength string (run - 1) t + 1
    else if c = '{' then
      let run := min string.braces (runLength '{' t + 1)
      if string.quoting = .regular then
        if t.head? = some '{' then holedTextLength string 1 t + 1 else 0
      else if run = string.braces && (t.drop (run - 1)).head? != some '{' then 0
      else holedTextLength string run t + 1
    else if string.quoting = .regular && (c == '\\' || c == '\n') then 0
    else holedTextLength string 0 t + 1

/-- Whether the text starts with `n` of a character. -/
def startsWithRun (c : Char) (n : Nat) (t : Text) : Bool := n > 0 && runLength c t ≥ n

/-! ### Preprocessor lines -/

/-- Length of the sign and the name that open a preprocessor line. -/
def directiveLength? (name : String) (t : Text) : Option Nat :=
  match t with
  | '#' :: rest =>
    let gap := (rest.takeWhile fun c => c == ' ' || c == '\t').length
    let name := name.toList
    if (rest.drop gap).take name.length == name then some (1 + gap + name.length) else none
  | _ => none

/-- Number of characters with which the rest of a preprocessor line goes on. A slash takes the next character
along, also a line end, unless a block comment starts with it. So does a backslash at the end of a line. -/
def lineTextRest : Text → Nat
  | [] => 0
  | [c] => if c = '/' || c = '\n' then 0 else 1
  | c :: d :: t =>
    if c = '/' then (if d = '*' then 0 else lineTextRest t + 2)
    else if c = '\n' then 0
    else if c = '\\' && d = '\n' then lineTextRest t + 2
    else lineTextRest (d :: t) + 1

/-- Length of the rest of a preprocessor line. -/
def lineTextLength? (t : Text) : Option Nat :=
  match t with
  | c :: rest => if isSpace c then none else some (1 + lineTextRest rest)
  | [] => none

/-! ### All together -/

/-- How far the terminal reaches, if it stands at the start of the text, inside the given string with holes. -/
def length? (string? : Option OpenString) (t : Text) : Terminal → Option Nat
  | keyword word =>
    let length := (wordLength? t).getD 0
    if length = word.length && t.take length == word.toList then some length else none
  | builtInType =>
    match wordLength? t with
    | some n => if builtInTypes.contains (String.ofList (t.take n)) then some n else none
    | none => none
  | name => wordLength? t
  | symbol text => if t.take text.length == text.toList then some text.length else none
  | integer => integerLength? t
  | real => realLength? t
  | openMark => if t.head? = some '"' && runLength '"' t < 3 then some 1 else none
  | closeMark => if t.head? = some '"' then some 1 else none
  | stringText =>
    let n := (t.takeWhile fun c => c != '"' && c != '\\' && c != '\n').length
    if n = 0 then none else some n
  | escape => escapeLength? t
  | encoding => encodingLength? t
  | verbatimString =>
    match t with
    | '@' :: '"' :: rest => (verbatimLength? rest).map fun n => 2 + n + (encodingLength? (rest.drop n)).getD 0
    | _ => none
  | rawString => rawStringLength? t
  | apostrophe => if t.head? = some '\'' then some 1 else none
  | characterText =>
    match t with
    | c :: _ => if c = '\'' || c = '\\' then none else some 1
    | [] => none
  | openHoled quoting =>
    match openHoled? t with
    | some (string, n) => if string.quoting = quoting then some n else none
    | none => none
  | closeHoled =>
    match string? with
    | some string =>
      let isText := string.quoting = .verbatim && runLength '"' t ≥ 2
      if !isText && startsWithRun '"' string.marks t then some string.marks else none
    | none => none
  | holedText =>
    match string? with
    | some string =>
      let n := holedTextLength string 0 t
      if n = 0 then none else some n
    | none => none
  | openHole =>
    match string? with
    | some string =>
      if startsWithRun '{' string.braces t && (t.drop string.braces).head? != some '{' then some string.braces
      else none
    | none => none
  | closeHole =>
    match string? with
    | some string => if startsWithRun '}' string.braces t then some string.braces else none
    | none => none
  | format =>
    let n := (t.takeWhile fun c => c != '}' && c != '"').length
    if n = 0 then none else some n
  | directive d => directiveLength? d t
  | lineText => lineTextLength? t
  | lineEnd => if t.head? = some '\n' then some 1 else none
  | shebang => if t.take 2 == ['#', '!'] then some (t.takeWhile (· != '\n')).length else none
  | optionalSemicolon => if t.head? = some ';' then some 1 else some 0

/-- Whether the terminal stands for words. -/
def isWord : Terminal → Bool
  | keyword _ | builtInType | name => true
  | _ => false

/-- Whether the terminal stands for the given word and not for all names. -/
def isKeyword (word : String) : Terminal → Bool
  | keyword w => w == word
  | builtInType => builtInTypes.contains word
  | _ => false

/-- Whether the terminal counts also where a longer one could come next. -/
def isExempt : Terminal → Bool
  | symbol text => text == ">"
  | closeHole => true
  | _ => false

/-- The terminals of a list with how far they reach. -/
def found (string? : Option OpenString) (t : Text) (terminals : List Terminal) : List (Terminal × Nat) :=
  terminals.filterMap fun terminal => (terminal.length? string? t).map (terminal, ·)

/-- Of the words that could come next, those that the word at the start is: a keyword rather than a name. Only
the underscore can be both. -/
def words (t : Text) (terminals : List Terminal) : List (Terminal × Nat) :=
  match wordLength? t with
  | none => []
  | some n =>
    let word := String.ofList (t.take n)
    let keywords := terminals.filter (isKeyword word)
    let names := if keywords.isEmpty || word == "_" then terminals.filter (· == .name) else []
    (keywords ++ names).map (·, n)

/-- Of the other terminals that could come next, those that stand at the start: the longest. -/
def longest (string? : Option OpenString) (t : Text) (terminals : List Terminal) : List (Terminal × Nat) :=
  let all := found string? t (terminals.filter fun terminal => !terminal.isWord)
  let bound := all.foldl (fun n p => max n p.2) 0
  all.filter fun p => p.2 == bound || p.1.isExempt

/-- Of the terminals that could come next, those that stand directly at the start. The end of a string comes
before a hole, and a hole before text. -/
def glued (string? : Option OpenString) (t : Text) (terminals : List Terminal) : List (Terminal × Nat) :=
  let all := (found string? t (terminals.filter isGlued)).filter fun p => p.1 != .optionalSemicolon
  let first := all.filter fun p => p.1 == .closeHoled
  let second := all.filter fun p => p.1 == .openHole
  if !first.isEmpty then first else if !second.isEmpty then second else all

end Terminal

end Source

end Excerpt
