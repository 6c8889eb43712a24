import Excerpt.Config.Scalar
import Excerpt.Config.Value

/-! # Reading a configuration file

`Reader.document?` reads a text as TOML. Each reader takes the text from the current place on and returns what
it has read and the rest, or `none` if the text is malformed. -/

namespace Excerpt

namespace Config

namespace Reader

/-- Whether the character is a space or a tab. -/
def isSpace (c : Char) : Bool := c == ' ' || c == '\t'

/-- Whether the character may not be written as it is. -/
def isControl (c : Char) : Bool := (c.toNat < 0x20 && c != '\t') || c.toNat == 0x7F

/-- The text without the spaces and tabs at its start. -/
def skipSpaces (t : Text) : Text := t.dropWhile isSpace

/-- The rest after spaces, a comment and a line end; the end of the text ends a line too. -/
def lineEnd? (comment : Bool) : Text → Option Text
  | [] => some []
  | c :: t =>
    if c = '\n' then some t
    else if c = '\r' then (if t.head? = some '\n' then some (t.drop 1) else none)
    else if comment then (if isControl c then none else lineEnd? true t)
    else if isSpace c then lineEnd? false t
    else if c = '#' then lineEnd? true t
    else none

/-- The rest after spaces, comments and line ends. -/
def filler? (comment : Bool) : Text → Option Text
  | [] => some []
  | c :: t =>
    if c = '\n' then filler? false t
    else if c = '\r' then (if t.head? = some '\n' then filler? false t else none)
    else if comment then (if isControl c then none else filler? true t)
    else if isSpace c then filler? false t
    else if c = '#' then filler? true t
    else some (c :: t)

/-! ### Strings -/

/-- Where in a string the reader is. -/
inductive StringState where
  | plain
  /-- After a backslash. -/
  | escape
  /-- In a code point with `left` digits to come. -/
  | code (left value : Nat)
  /-- In the space after a backslash at the end of a line; `ended` once the line has ended. -/
  | gap (ended : Bool)
deriving DecidableEq, Repr, Inhabited

/-- The character that a letter after a backslash stands for. -/
def escaped? (c : Char) : Option Char :=
  match c with
  | 'b' => some (Char.ofNat 8)
  | 't' => some '\t'
  | 'n' => some '\n'
  | 'f' => some (Char.ofNat 12)
  | 'r' => some '\r'
  | 'e' => some (Char.ofNat 27)
  | '"' => some '"'
  | '\\' => some '\\'
  | _ => none

/-- Number of digits of a code point after a letter. -/
def codeLength? (c : Char) : Option Nat :=
  match c with
  | 'x' => some 2
  | 'u' => some 4
  | 'U' => some 8
  | _ => none

/-- The value of a hexadecimal digit. -/
def hexDigit? (c : Char) : Option Nat :=
  if '0' ≤ c ∧ c ≤ '9' then some (c.toNat - '0'.toNat)
  else if 'a' ≤ c ∧ c ≤ 'f' then some (c.toNat - 'a'.toNat + 10)
  else if 'A' ≤ c ∧ c ≤ 'F' then some (c.toNat - 'A'.toNat + 10)
  else none

/-- The character with a code point. -/
def ofCode? (n : Nat) : Option Char := if n.isValidChar then some (Char.ofNat n) else none

/-- Adds a character to what has been read. -/
def push (c : Char) (read : Option (Text × Text)) : Option (Text × Text) := read.map fun p => (c :: p.1, p.2)

/-- Whether the character can stand between a backslash at the end of a line and the text that goes on. -/
def isGap (c : Char) : Bool := isSpace c || c == '\n' || c == '\r'

/-- Whether a carriage return has its line feed, or the character is none. -/
def isWholeEnd (c : Char) (t : Text) : Bool := c != '\r' || t.head? == some '\n'

/-- The end of a string that may run across lines, given the run of quotes at its end: up to two of them
belong to it. -/
def closeMultiline (quote : Char) (t : Text) : Text × Text :=
  let run := min 5 (t.takeWhile (· == quote)).length
  (List.replicate (run - 3) quote, t.drop run)

/-- Whether three quotes stand at the start of the text. -/
def startsTriple (quote : Char) (t : Text) : Bool := t.take 3 == [quote, quote, quote]

/-- The rest of a string with escapes. -/
def basic? (multiline : Bool) (state : StringState) : Text → Option (Text × Text)
  | [] => none
  | c :: t =>
    match (if state = .gap true && !isGap c then .plain else state) with
    | .plain =>
      if c = '"' then
        if !multiline then some ([], t)
        else if startsTriple '"' (c :: t) then some (closeMultiline '"' (c :: t))
        else push c (basic? multiline .plain t)
      else if c = '\\' then basic? multiline .escape t
      else if c = '\n' || c = '\r' then
        if multiline && isWholeEnd c t then push c (basic? multiline .plain t) else none
      else if isControl c then none
      else push c (basic? multiline .plain t)
    | .escape =>
      match escaped? c, codeLength? c with
      | some d, _ => push d (basic? multiline .plain t)
      | none, some n => basic? multiline (.code n 0) t
      | none, none =>
        if multiline && isGap c && isWholeEnd c t then basic? multiline (.gap (c == '\n')) t else none
    | .code left value =>
      match hexDigit? c with
      | none => none
      | some d =>
        if left ≤ 1 then
          match ofCode? (16 * value + d) with
          | some e => push e (basic? multiline .plain t)
          | none => none
        else basic? multiline (.code (left - 1) (16 * value + d)) t
    | .gap ended =>
      if isGap c && isWholeEnd c t then basic? multiline (.gap (ended || c == '\n')) t else none

/-- The rest of a string without escapes. -/
def literal? (multiline : Bool) : Text → Option (Text × Text)
  | [] => none
  | c :: t =>
    if c = '\'' then
      if !multiline then some ([], t)
      else if startsTriple '\'' (c :: t) then some (closeMultiline '\'' (c :: t))
      else push c (literal? multiline t)
    else if c = '\n' || c = '\r' then
      if multiline && isWholeEnd c t then push c (literal? multiline t) else none
    else if isControl c then none
    else push c (literal? multiline t)

/-- The text without a line end at its start. -/
def dropFirstEnd (t : Text) : Text :=
  match t with
  | '\n' :: rest => rest
  | '\r' :: '\n' :: rest => rest
  | _ => t

/-- A string of any sort. -/
def string? (t : Text) : Option (Text × Text) :=
  if startsTriple '"' t then basic? true .plain (dropFirstEnd (t.drop 3))
  else if startsTriple '\'' t then literal? true (dropFirstEnd (t.drop 3))
  else match t with
    | '"' :: rest => basic? false .plain rest
    | '\'' :: rest => literal? false rest
    | _ => none

/-! ### Keys -/

/-- Whether the character can be part of a key without quotes. -/
def isKeyChar (c : Char) : Bool := c.isAlphanum || c == '_' || c == '-'

/-- A key without dots. -/
def key? (t : Text) : Option (Text × Text) :=
  match t with
  | '"' :: rest => basic? false .plain rest
  | '\'' :: rest => literal? false rest
  | _ =>
    let name := t.takeWhile isKeyChar
    if name.isEmpty then none else some (name, t.dropWhile isKeyChar)

/-- The parts of a dotted key and the rest after the spaces that follow it. -/
def dottedKey? (t : Text) : Option (List Text × Text) :=
  match key? t with
  | none => none
  | some (key, rest) =>
    match skipSpaces rest with
    | '.' :: more =>
      let more := skipSpaces more
      if more.length < t.length then (dottedKey? more).map fun p => (key :: p.1, p.2) else none
    | rest => some ([key], rest)
termination_by t.length

/-- Values and dotted keys nest at most this deep. -/
def nestingLimit : Nat := 80

/-- The last of the keys and those before it, of which there are not too many. -/
def splitLast? (keys : List Text) : Option (List Text × Text) :=
  if keys.length ≤ nestingLimit then keys.getLast?.map fun key => (keys.dropLast, key) else none

/-- A dotted key and the equals sign after it. -/
def assignment? (t : Text) : Option (List Text × Text × Text) :=
  match dottedKey? t with
  | some (keys, '=' :: rest) => (splitLast? keys).map fun p => (p.1, p.2, skipSpaces rest)
  | _ => none

/-- A dotted key and the equals sign after it in a table in braces, where both may have lines of their own. -/
def inlineAssignment? (t : Text) : Option (List Text × Text × Text) :=
  match dottedKey? t with
  | none => none
  | some (keys, rest) =>
    match filler? false rest with
    | some ('=' :: rest) =>
      match splitLast? keys, filler? false rest with
      | some (path, key), some rest => some (path, key, rest)
      | _, _ => none
    | _ => none

/-! ### Values -/

/-- Whether the character ends a number, a truth value or a date. -/
def endsScalar (c : Char) : Bool := isControl c || isSpace c || [',', ']', '}', '#', '='].contains c

/-- The characters of a number, a truth value or a date. One blank may stand between a date and a time. -/
def scalarText (t : Text) : Text :=
  let written := t.takeWhile fun c => !endsScalar c
  match t.drop written.length with
  | ' ' :: rest =>
    let more := rest.takeWhile fun c => !endsScalar c
    if Scalar.afterDate? written == some [] && !more.isEmpty then written ++ ' ' :: more else written
  | _ => written

/-- A number, a truth value or a date. -/
def scalar? (t : Text) : Option (Value × Text) :=
  let written := scalarText t
  if Scalar.isWellFormed written then some (.scalar written, t.drop written.length) else none

mutual
/-- A value that stands `depth` brackets deep, in at most `fuel` steps. -/
def value? (fuel depth : Nat) (t : Text) : Option (Value × Text) :=
  match fuel with
  | 0 => none
  | fuel + 1 =>
    match t with
    | '[' :: rest =>
      if depth < nestingLimit then (arrayItems? fuel (depth + 1) rest).map fun p => (.array p.1, p.2) else none
    | '{' :: rest =>
      if depth < nestingLimit then
        (inlineEntries? fuel (depth + 1) [] rest).map fun p => (.table .inline p.1, p.2)
      else none
    | c :: _ =>
      if c = '"' || c = '\'' then (string? t).map fun p => (.text p.1, p.2) else scalar? t
    | [] => none

/-- The items of an array and the rest after it. -/
def arrayItems? (fuel depth : Nat) (t : Text) : Option (List Value × Text) :=
  match fuel with
  | 0 => none
  | fuel + 1 =>
    match filler? false t with
    | none => none
    | some (']' :: rest) => some ([], rest)
    | some t =>
      match value? fuel depth t with
      | none => none
      | some (item, rest) =>
        match filler? false rest with
        | some (',' :: rest) => (arrayItems? fuel depth rest).map fun p => (item :: p.1, p.2)
        | some (']' :: rest) => some ([item], rest)
        | _ => none

/-- The entries of a table in braces, after those that have been read, and the rest after it. -/
def inlineEntries? (fuel depth : Nat) (entries : Entries) (t : Text) : Option (Entries × Text) :=
  match fuel with
  | 0 => none
  | fuel + 1 =>
    match filler? false t with
    | none => none
    | some ('}' :: rest) => some (entries, rest)
    | some t =>
      match inlineAssignment? t with
      | none => none
      | some (path, key, rest) =>
        match value? fuel depth rest with
        | none => none
        | some (value, rest) =>
          match entries.assign? value key path with
          | none => none
          | some entries =>
            match filler? false rest with
            | some (',' :: rest) => inlineEntries? fuel depth entries rest
            | some ('}' :: rest) => some (entries, rest)
            | _ => none
end

/-! ### Documents -/

/-- What has been read of a document: its entries and the path of the last header. -/
structure State where
  entries : Entries
  header : List Text
deriving Repr, Inhabited

/-- Reads a line that starts with an opening bracket. -/
def headerLine? (state : State) (t : Text) : Option (State × Text) :=
  match t with
  | '[' :: '[' :: rest =>
    match dottedKey? (skipSpaces rest) with
    | some (keys, ']' :: ']' :: rest) =>
      match splitLast? keys with
      | some (path, key) => (state.entries.openArray? path key).map fun entries => (⟨entries, keys⟩, rest)
      | none => none
    | _ => none
  | '[' :: rest =>
    match dottedKey? (skipSpaces rest) with
    | some (keys, ']' :: rest) =>
      match splitLast? keys with
      | some (path, key) => (state.entries.openTable? path key).map fun entries => (⟨entries, keys⟩, rest)
      | none => none
    | _ => none
  | _ => none

/-- Reads a line that gives a value to a key. -/
def keyLine? (state : State) (t : Text) : Option (State × Text) :=
  match assignment? t with
  | none => none
  | some (path, key, rest) =>
    match value? (rest.length + 1) 0 rest with
    | none => none
    | some (value, rest) =>
      (state.entries.within? (Entries.assign? value key path) state.header).map fun entries =>
        ({ state with entries }, rest)

/-- Reads one line without its end; there may be nothing in it. -/
def line? (state : State) (t : Text) : Option (State × Text) :=
  match t with
  | [] => some (state, t)
  | c :: _ =>
    if c = '[' then headerLine? state t
    else if c = '#' || c = '\n' || c = '\r' then some (state, t)
    else keyLine? state t

/-- Reads the rest of the lines. -/
def lines? (state : State) (t : Text) : Option State :=
  if t.isEmpty then some state
  else match line? state (skipSpaces t) with
    | none => none
    | some (state, rest) =>
      match lineEnd? false rest with
      | none => none
      | some rest => if rest.length < t.length then lines? state rest else none
termination_by t.length

/-- The character that may stand before the first line. -/
def byteOrderMark : Char := Char.ofNat 0xFEFF

/-- The entries of a document. -/
def document? (t : Text) : Option Entries :=
  let t := match t with
    | c :: rest => if c = byteOrderMark then rest else t
    | [] => t
  (lines? ⟨[], []⟩ t).map (·.entries)

end Reader

end Config

end Excerpt
