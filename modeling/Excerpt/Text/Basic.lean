/-! # Text

A text is a list of characters. Offsets into a text count the bytes of its UTF-8 form: `byteLength` measures,
`takeBytes` and `dropBytes` cut, and `isBoundary` tells the offsets that fall between two characters. Cutting
never loses a character (`takeBytes_append_dropBytes`). -/

namespace Excerpt

/-- A text, as the list of its characters. -/
abbrev Text := List Char

namespace Text

/-- Number of bytes of the UTF-8 form. -/
def byteLength : Text → Nat
  | [] => 0
  | c :: t => c.utf8Size + byteLength t

/-- Whether the byte offset falls between two characters, or at an end. -/
def isBoundary : Nat → Text → Bool
  | 0, _ => true
  | _ + 1, [] => false
  | n + 1, c :: t => if c.utf8Size ≤ n + 1 then isBoundary (n + 1 - c.utf8Size) t else false

/-- The characters that lie wholly within the first `n` bytes. -/
def takeBytes : Nat → Text → Text
  | _, [] => []
  | n, c :: t => if c.utf8Size ≤ n then c :: takeBytes (n - c.utf8Size) t else []

/-- What `takeBytes` leaves. -/
def dropBytes : Nat → Text → Text
  | _, [] => []
  | n, c :: t => if c.utf8Size ≤ n then dropBytes (n - c.utf8Size) t else c :: t

/-- The part of the text between two byte offsets. -/
def slice (start stop : Nat) (t : Text) : Text :=
  takeBytes (stop - start) (dropBytes start t)

/-- The text before the first `sep` and the text after it. -/
def breakAt (sep : Char) : Text → Option (Text × Text)
  | [] => none
  | c :: t => if c = sep then some ([], t) else (breakAt sep t).map fun p => (c :: p.1, p.2)

/-- The parts between the separators; a text without one is its own single part. -/
def split (sep : Char) : Text → List Text
  | [] => [[]]
  | c :: t =>
    if c = sep then [] :: split sep t
    else match split sep t with
      | [] => [[c]]
      | part :: parts => (c :: part) :: parts

/-- The texts in order with `sep` between two neighbours. -/
def joinWith (sep : Text) : List Text → Text
  | [] => []
  | [t] => t
  | t :: rest => t ++ sep ++ joinWith sep rest

/-- Decimal digits of a number. -/
def ofNat (n : Nat) : Text := Nat.toDigits 10 n

variable {n : Nat} {t u : Text}

@[simp] theorem byteLength_nil : byteLength [] = 0 := rfl

@[simp] theorem byteLength_cons (c : Char) (t : Text) : byteLength (c :: t) = c.utf8Size + byteLength t := rfl

@[simp] theorem byteLength_append (t u : Text) : byteLength (t ++ u) = byteLength t + byteLength u := by
  induction t with
  | nil => simp
  | cons c t ih => simp only [List.cons_append, byteLength_cons, ih]; omega

theorem takeBytes_append_dropBytes (n : Nat) (t : Text) : takeBytes n t ++ dropBytes n t = t := by
  induction t generalizing n with
  | nil => rfl
  | cons c t ih => by_cases h : c.utf8Size ≤ n <;> simp [takeBytes, dropBytes, h, ih]

theorem split_ne_nil (sep : Char) (t : Text) : split sep t ≠ [] := by
  cases t with
  | nil => exact List.cons_ne_nil _ _
  | cons c t =>
    unfold split
    split
    · exact List.cons_ne_nil _ _
    · split <;> exact List.cons_ne_nil _ _

end Text

end Excerpt
