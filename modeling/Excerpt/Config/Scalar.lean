import Excerpt.Text.Basic

/-! # Numbers, truth values and dates of a configuration file

No setting takes one of these, but a file that writes one in a wrong way is malformed all the same.
`Scalar.isWellFormed` says whether a text is one of them: a truth value, an integer of 64 bits, a number with
a fraction or an exponent that is not too large, or a date, a time or both. -/

namespace Excerpt

namespace Config

namespace Scalar

/-- Whether the text is a run of digits; single underscores may stand between them. `after` says whether a
digit stands before the text. -/
def isGrouped (isDigit : Char → Bool) (after : Bool) : Text → Bool
  | [] => after
  | c :: t => if c = '_' then after && isGrouped isDigit false t else isDigit c && isGrouped isDigit true t

/-- The value of a digit in any base up to sixteen. -/
def digitValue (c : Char) : Nat :=
  if c.isDigit then c.toNat - '0'.toNat
  else if 'a' ≤ c then c.toNat - 'a'.toNat + 10
  else c.toNat - 'A'.toNat + 10

/-- The value of a run of digits. -/
def numeral (base : Nat) (digits : Text) : Nat :=
  (digits.filter (· != '_')).foldl (fun n c => base * n + digitValue c) 0

/-- The text without a sign at its start. -/
def unsigned (t : Text) : Text :=
  match t with
  | c :: rest => if c = '+' || c = '-' then rest else t
  | [] => []

/-! ### Integers -/

/-- Whether the text is a decimal numeral. Only zero itself starts with a zero. -/
def isDecimal (t : Text) : Bool :=
  isGrouped Char.isDigit false t && (t.length == 1 || t.head? != some '0')

/-- The integers have 64 bits. -/
def integerBound : Nat := Nat.pow 2 63

/-- Whether the text is a decimal integer. -/
def isSignedInteger (t : Text) : Bool :=
  let bound := if t.head? = some '-' then integerBound + 1 else integerBound
  isDecimal (unsigned t) && numeral 10 (unsigned t) < bound

/-- The base that a letter after a zero stands for, and its digits. -/
def base? (c : Char) : Option (Nat × (Char → Bool)) :=
  match c with
  | 'x' => some (16, fun d => d.isDigit || ('a' ≤ d && d ≤ 'f') || ('A' ≤ d && d ≤ 'F'))
  | 'o' => some (8, fun d => '0' ≤ d && d ≤ '7')
  | 'b' => some (2, fun d => d == '0' || d == '1')
  | _ => none

/-- Whether the text is an integer in another base. -/
def isBasedInteger (t : Text) : Bool :=
  match t with
  | '0' :: letter :: digits =>
    match base? letter with
    | some (base, isDigit) => isGrouped isDigit false digits && numeral base digits < integerBound
    | none => false
  | _ => false

/-! ### Numbers with a fraction or an exponent -/

/-- The numbers from here on are rounded to infinity in 64 bits: half a unit above the largest finite one. -/
def overflow : Nat := Nat.pow 2 1024 - Nat.pow 2 970

/-- Number of decimal digits. -/
def decimalDigits (n : Nat) : Nat := (Nat.toDigits 10 n).length

/-- Whether `mantissa * 10 ^ exponent` is less than `overflow`. The power is only computed where the number of
digits leaves it open. -/
def isFinite (mantissa : Nat) (exponent : Int) : Bool :=
  let digits : Int := decimalDigits mantissa + exponent
  if mantissa = 0 || digits < 300 then true
  else if digits > 310 then false
  else match exponent with
    | .ofNat n => mantissa * Nat.pow 10 n < overflow
    | .negSucc n => mantissa < overflow * Nat.pow 10 (n + 1)

/-- The value of an exponent with a sign. -/
def exponentValue (t : Text) : Int :=
  let n : Int := numeral 10 (unsigned t)
  if t.head? = some '-' then -n else n

/-- Whether the text is a number with a fraction, an exponent or both. -/
def isFloat (t : Text) : Bool :=
  let t := unsigned t
  let isMark : Char → Bool := fun c => c == 'e' || c == 'E'
  let whole := t.takeWhile fun c => c != '.' && !isMark c
  let rest := t.drop whole.length
  let (fraction, rest) := match rest with
    | '.' :: rest => (some (rest.takeWhile fun c => !isMark c), rest.dropWhile fun c => !isMark c)
    | _ => (none, rest)
  let exponent := rest.drop 1
  isDecimal whole && (fraction.isSome || !rest.isEmpty) &&
    (fraction.map (isGrouped Char.isDigit false ·)).getD true &&
    (rest.isEmpty || isGrouped Char.isDigit false (unsigned exponent)) &&
    (let decimals := (fraction.getD []).filter (· != '_')
     isFinite (numeral 10 (whole ++ decimals)) (exponentValue exponent - decimals.length))

/-- Whether the text is infinity or no number. -/
def isSpecial (t : Text) : Bool := unsigned t == "inf".toList || unsigned t == "nan".toList

/-! ### Dates and times -/

/-- A number of exactly `n` digits, no less than `low` and at most `high`, and the rest. -/
def field? (n low high : Nat) (t : Text) : Option (Nat × Text) :=
  let digits := t.take n
  let value := numeral 10 digits
  if digits.length = n && digits.all Char.isDigit && low ≤ value && value ≤ high then some (value, t.drop n)
  else none

/-- What follows a mark at the start. -/
def after? (mark : Char) (t : Text) : Option Text :=
  match t with
  | c :: rest => if c = mark then some rest else none
  | [] => none

/-- Whether the year has a 29th of February. -/
def isLeapYear (year : Nat) : Bool := year % 4 == 0 && (year % 100 != 0 || year % 400 == 0)

/-- Number of days of a month. -/
def monthLength (year month : Nat) : Nat :=
  if month = 2 then (if isLeapYear year then 29 else 28)
  else if month = 4 ∨ month = 6 ∨ month = 9 ∨ month = 11 then 30
  else 31

/-- What follows a date. -/
def afterDate? (t : Text) : Option Text := do
  let (year, t) ← field? 4 0 9999 t
  let t ← after? '-' t
  let (month, t) ← field? 2 1 12 t
  let t ← after? '-' t
  let (_, t) ← field? 2 1 (monthLength year month) t
  return t

/-- What follows the seconds of a time, which may be left out; a fraction of them has at least one digit. -/
def afterSeconds? (t : Text) : Option Text :=
  match t with
  | ':' :: rest =>
    match field? 2 0 60 rest with
    | some (_, '.' :: fraction) =>
      let rest := fraction.dropWhile Char.isDigit
      if rest.length < fraction.length then some rest else none
    | some (_, rest) => some rest
    | none => none
  | _ => some t

/-- What follows a time. -/
def afterTime? (t : Text) : Option Text := do
  let (_, t) ← field? 2 0 23 t
  let t ← after? ':' t
  let (_, t) ← field? 2 0 59 t
  afterSeconds? t

/-- Whether the text is an offset from universal time. -/
def isOffset (t : Text) : Bool :=
  match t with
  | ['Z'] | ['z'] => true
  | sign :: rest =>
    (sign == '+' || sign == '-') &&
      (do let (_, t) ← field? 2 0 23 rest
          let t ← after? ':' t
          let (_, t) ← field? 2 0 59 t
          return t.isEmpty : Option Bool).getD false
  | [] => false

/-- Whether the text is a date, a time, or a date and a time, which then may have an offset. -/
def isMoment (t : Text) : Bool :=
  match afterDate? t with
  | some [] => true
  | some (separator :: rest) =>
    ['T', 't', ' '].contains separator &&
      ((afterTime? rest).map fun rest => rest.isEmpty || isOffset rest).getD false
  | none => afterTime? t == some []

/-! ### All together -/

/-- Whether the text is a truth value. -/
def isTruth (t : Text) : Bool := t == "true".toList || t == "false".toList

/-- Whether the text is a number, a truth value or a date. -/
def isWellFormed (t : Text) : Bool :=
  isTruth t || isSignedInteger t || isBasedInteger t || isFloat t || isSpecial t || isMoment t

end Scalar

end Config

end Excerpt
