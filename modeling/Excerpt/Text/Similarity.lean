import Excerpt.Text.Basic

/-! # Similarity of texts

The Jaro-Winkler similarity of two texts, between 0 and 1: characters match when they are equal and not far
apart, half of the matches that are out of order count against the score, and a common start counts for it. -/

namespace Excerpt

namespace Text

/-- Marks the first unmarked `c` whose position `j` satisfies `low ≤ j < high`. -/
def markMatch (c : Char) (low high : Nat) : Nat → List (Char × Bool) → Option (List (Char × Bool))
  | _, [] => none
  | j, (d, used) :: rest =>
    if low ≤ j ∧ j < high ∧ d = c ∧ !used then some ((d, true) :: rest)
    else (markMatch c low high (j + 1) rest).map ((d, used) :: ·)

/-- The characters of the first text, from position `i`, that match one of the second, and the second text
with its matched characters marked. -/
def matchAll (range : Nat) : Nat → Text → List (Char × Bool) → Text × List (Char × Bool)
  | _, [], marked => ([], marked)
  | i, c :: rest, marked =>
    match markMatch c (i - range) (i + range + 1) 0 marked with
    | some marked => let (matched, marked) := matchAll range (i + 1) rest marked; (c :: matched, marked)
    | none => matchAll range (i + 1) rest marked

/-- Number of positions at which two lists of equal length differ. -/
def differences (s t : Text) : Nat := ((s.zip t).filter fun p => p.1 != p.2).length

/-- Length of the longest common start. -/
def commonStart : Text → Text → Nat
  | c :: s, d :: t => if c = d then commonStart s t + 1 else 0
  | _, _ => 0

/-- The Jaro similarity. -/
def jaro (s t : Text) : Float :=
  if s.isEmpty && t.isEmpty then 1.0
  else if s.isEmpty || t.isEmpty then 0.0
  else
    let range := max s.length t.length / 2 - 1
    let (matched, marked) := matchAll range 0 s (t.map fun c => (c, false))
    let other := (marked.filter (·.2)).map (·.1)
    if matched.isEmpty then 0.0
    else
      let m := Float.ofNat matched.length
      let transposed := differences matched other / 2
      ((m / Float.ofNat s.length) + (m / Float.ofNat t.length) +
        (Float.ofNat (matched.length - transposed) / m)) / 3.0

/-- The Jaro-Winkler similarity. -/
def similarity (s t : Text) : Float :=
  let score := jaro s t
  if score > 0.7 then score + 0.1 * Float.ofNat (min (commonStart s t) 4) * (1.0 - score) else score

end Text

end Excerpt
