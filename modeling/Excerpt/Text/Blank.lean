import Excerpt.Text.Basic

/-! # Blank characters

`Text.isBlank` is the Unicode property White_Space. A text is blank when all of its characters are; trimming
removes blank characters from the ends of a text. -/

namespace Excerpt

namespace Text

/-- Whether the character has the Unicode property White_Space. -/
def isBlank (c : Char) : Bool :=
  let n := c.toNat
  (0x09 ≤ n && n ≤ 0x0D) || n == 0x20 || n == 0x85 || n == 0xA0 || n == 0x1680 || (0x2000 ≤ n && n ≤ 0x200A) ||
    n == 0x2028 || n == 0x2029 || n == 0x202F || n == 0x205F || n == 0x3000

/-- Whether every character is blank. -/
def allBlank (t : Text) : Bool := t.all isBlank

/-- The blank characters at the start. -/
def indentation (t : Text) : Text := t.takeWhile isBlank

/-- The text without the blank characters at its start. -/
def trimStart (t : Text) : Text := t.dropWhile isBlank

/-- The text without the characters at its end that satisfy `p`. -/
def dropEndWhile (p : Char → Bool) (t : Text) : Text := (t.reverse.dropWhile p).reverse

/-- The text without the blank characters at its end. -/
def trimEnd (t : Text) : Text := dropEndWhile isBlank t

/-- The text without the blank characters at its ends. -/
def trim (t : Text) : Text := trimEnd (trimStart t)

/-- The text without any blank character. -/
def squeeze (t : Text) : Text := t.filter fun c => !isBlank c

variable {t : Text} {c : Char}

@[simp] theorem indentation_append_trimStart (t : Text) : indentation t ++ trimStart t = t :=
  List.takeWhile_append_dropWhile

theorem trim_cons_blank (h : isBlank c) (t : Text) : trim (c :: t) = trim t := by
  rw [trim, trimStart, List.dropWhile_cons_of_pos h]
  rfl

theorem trim_of_not_isBlank (h : ∀ c ∈ t, ¬ isBlank c) : trim t = t := by
  have hdrop : ∀ u : Text, (∀ c ∈ u, ¬ isBlank c) → u.dropWhile isBlank = u := by
    intro u hu
    cases u with
    | nil => rfl
    | cons c u => exact List.dropWhile_cons_of_neg (hu c List.mem_cons_self)
  rw [trim, trimStart, hdrop t h, trimEnd, dropEndWhile, hdrop _ fun c hc => h c (List.mem_reverse.1 hc),
    List.reverse_reverse]

@[simp] theorem squeeze_append (t u : Text) : squeeze (t ++ u) = squeeze t ++ squeeze u :=
  List.filter_append ..

end Text

end Excerpt
