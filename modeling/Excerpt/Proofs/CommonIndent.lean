import Excerpt.Snippet.Indent
import Mathlib.Data.List.Forall2
import Mathlib.Data.List.TakeWhile

/-!
# The common indentation

The lines with text share an indentation, the least one among them (`commonIndent?_eq_some_iff`). Removing it takes from
each of those lines that many characters of its indentation, and from a blank line as many as it has of them
(`Outdented`), so the lines keep their places relative to each other. Then one of them has no indentation left, and
there is nothing more to remove (`dedent_dedent`). Blank lines alone share nothing and stay as they are.
-/

namespace Excerpt

theorem Text.allBlank_indentation (t : Text) : (indentation t).allBlank :=
  List.all_eq_true.2 fun _ hc => List.mem_takeWhile_imp hc

namespace Snippet
variable {lines : List Text} {line shown : Text} {width n : Nat}

/-! ### Blank characters at the start of a line -/

theorem allBlank_take (h : n ≤ line.indentation.length) : Text.allBlank (line.take n) := by
  have htake : line.take n <+: line.indentation :=
    List.prefix_of_prefix_length_le (List.take_prefix _ _) (List.takeWhile_prefix _)
      (Nat.le_trans (List.length_take_le _ _) h)
  exact List.all_eq_true.2 fun c hc => List.all_eq_true.1 (Text.allBlank_indentation line) c (htake.subset hc)

theorem allBlank_drop_of_take (h : Text.allBlank (line.take n)) : Text.allBlank (line.drop n) = line.allBlank := by
  have htake : (line.take n).all Text.isBlank = true := h
  conv_rhs => rw [← List.take_append_drop n line, Text.allBlank, List.all_append, htake, Bool.true_and]
  rfl

theorem allBlank_drop (h : n ≤ line.indentation.length) : Text.allBlank (line.drop n) = line.allBlank :=
  allBlank_drop_of_take (allBlank_take h)

theorem indentation_drop (h : n ≤ line.indentation.length) :
    Text.indentation (line.drop n) = line.indentation.drop n := by
  conv_lhs => rw [← Text.indentation_append_trimStart line, List.drop_append_of_le_length h]
  have hblank : ∀ c ∈ line.indentation.drop n, Text.isBlank c := fun c hc =>
    List.all_eq_true.1 (Text.allBlank_indentation line) c (List.mem_of_mem_drop hc)
  rw [Text.indentation, List.takeWhile_append_of_pos hblank]
  have hrest : (Text.trimStart line).takeWhile Text.isBlank = [] := by
    rw [List.takeWhile_eq_nil_iff]
    exact List.dropWhile_get_zero_not Text.isBlank line
  rw [hrest, List.append_nil]

/-! ### The least indentation -/

/-- The least number of characters that indent a line with text. -/
structure LeastIndent (width : Nat) (lines : List Text) : Prop where
  le : ∀ line ∈ lines, line.allBlank = false → width ≤ line.indentation.length
  attained : ∃ line ∈ lines, line.allBlank = false ∧ line.indentation.length = width

theorem commonIndent?_eq_some_iff : commonIndent? lines = some width ↔ LeastIndent width lines := by
  have hindent : ∀ n, n ∈ ((lines.filter fun line => !line.allBlank).map fun line => line.indentation.length) ↔
      ∃ line ∈ lines, line.allBlank = false ∧ line.indentation.length = n := by
    intro n
    simp only [List.mem_map, List.mem_filter, Bool.not_eq_true', and_assoc]
  rw [commonIndent?, List.min?_eq_some_iff, hindent]
  constructor
  · rintro ⟨hattained, hle⟩
    exact ⟨fun line hline hblank => hle _ ((hindent _).2 ⟨line, hline, hblank, rfl⟩), hattained⟩
  · rintro ⟨hle, hattained⟩
    refine ⟨hattained, fun n hn => ?_⟩
    obtain ⟨line, hline, hblank, rfl⟩ := (hindent n).1 hn
    exact hle line hline hblank

theorem commonIndent?_eq_none_iff : commonIndent? lines = none ↔ ∀ line ∈ lines, line.allBlank := by
  rw [commonIndent?, List.min?_eq_none_iff, List.map_eq_nil_iff, List.filter_eq_nil_iff]
  simp only [Bool.not_eq_true', Bool.not_eq_false]

theorem exists_commonIndent? (hm : line ∈ lines) (hb : line.allBlank = false) : ∃ n, commonIndent? lines = some n := by
  refine Option.ne_none_iff_exists'.1 fun hnone => ?_
  rw [commonIndent?_eq_none_iff.1 hnone line hm] at hb
  cases hb

theorem commonIndent?_le (hm : line ∈ lines) (hb : line.allBlank = false) :
    (commonIndent? lines).getD 0 ≤ line.indentation.length := by
  obtain ⟨n, hn⟩ := exists_commonIndent? hm hb
  rw [hn]
  exact (commonIndent?_eq_some_iff.1 hn).le line hm hb

theorem allBlank_take_commonIndent (hm : line ∈ lines) : Text.allBlank (line.take ((commonIndent? lines).getD 0)) := by
  by_cases hblank : line.allBlank
  · exact List.all_eq_true.2 fun c hc => List.all_eq_true.1 hblank c (List.mem_of_mem_take hc)
  · exact allBlank_take (commonIndent?_le hm (by simpa using hblank))

theorem allBlank_drop_commonIndent (hm : line ∈ lines) :
    Text.allBlank (line.drop ((commonIndent? lines).getD 0)) = line.allBlank :=
  allBlank_drop_of_take (allBlank_take_commonIndent hm)

/-! ### Removing it -/

theorem dedent_eq_self (h : (commonIndent? lines).getD 0 = 0) : dedent lines = lines := by
  rw [dedent, h]
  simp

/-- The line that decides how much is removed has no indentation afterwards. -/
theorem commonIndent?_dedent (h : commonIndent? lines = some n) : commonIndent? (dedent lines) = some 0 := by
  obtain ⟨line, hmem, hblank, hn⟩ := (commonIndent?_eq_some_iff.1 h).attained
  have hdrop : line.drop n ∈ dedent lines := by
    rw [dedent, h]
    exact List.mem_map_of_mem hmem
  have hle : n ≤ line.indentation.length := Nat.le_of_eq hn.symm
  refine commonIndent?_eq_some_iff.2 ⟨fun _ _ _ => Nat.zero_le _, line.drop n, hdrop, ?_, ?_⟩
  · rw [allBlank_drop hle, hblank]
  · rw [indentation_drop hle, List.length_drop, hn, Nat.sub_self]

theorem exists_flush_of_commonIndent? (h : commonIndent? lines = some 0) :
    ∃ line ∈ lines, ∃ c rest, line = c :: rest ∧ Text.isBlank c = false := by
  obtain ⟨line, hmem, hblank, hzero⟩ := (commonIndent?_eq_some_iff.1 h).attained
  refine ⟨line, hmem, ?_⟩
  cases line with
  | nil => cases hblank
  | cons c rest =>
    refine ⟨c, rest, rfl, ?_⟩
    by_contra hc
    simp [Text.indentation, hc] at hzero

theorem dedent_dedent (lines : List Text) : dedent (dedent lines) = dedent lines := by
  refine dedent_eq_self ?_
  cases h : commonIndent? lines with
  | none =>
    have hsame : dedent lines = lines := dedent_eq_self (by rw [h]; rfl)
    rw [hsame, h]
    rfl
  | some n =>
    rw [commonIndent?_dedent h]
    rfl

/-- The line is shown without the first `width` characters, which are blank. A blank line may have fewer. -/
structure Outdented (width : Nat) (line shown : Text) : Prop where
  cut : ∃ lead, line = lead ++ shown ∧ Text.allBlank lead ∧ lead.length = min width line.length
  text : line.allBlank = false → line.length = width + shown.length ∧
    line.indentation.length = width + shown.indentation.length

theorem LeastIndent.dedent_eq (h : LeastIndent width lines) : dedent lines = lines.map (List.drop width) := by
  rw [dedent, commonIndent?_eq_some_iff.2 h]
  rfl

theorem LeastIndent.outdented (h : LeastIndent width lines) (hline : line ∈ lines) :
    Outdented width line (line.drop width) where
  cut := by
    have hlead := allBlank_take_commonIndent hline
    rw [commonIndent?_eq_some_iff.2 h] at hlead
    exact ⟨line.take width, (List.take_append_drop width line).symm, hlead, List.length_take⟩
  text := by
    intro hblank
    have hle := h.le line hline hblank
    have hlength : line.indentation.length ≤ line.length := (List.takeWhile_prefix _).length_le
    rw [indentation_drop hle, List.length_drop, List.length_drop]
    omega

theorem LeastIndent.forall₂_dedent (h : LeastIndent width lines) :
    List.Forall₂ (Outdented width) lines (dedent lines) := by
  rw [h.dedent_eq, List.forall₂_map_right_iff, List.forall₂_same]
  exact fun line hline => h.outdented hline

/-- Removing indentation takes from each line exactly what the lines with text share. One of them then begins with its
text, and doing so again changes nothing. -/
theorem dedent_leastIndent (lines : List Text) :
    (dedent lines).length = lines.length ∧
    ((∃ line ∈ lines, line.allBlank = false) →
      ∃ width, LeastIndent width lines ∧ List.Forall₂ (Outdented width) lines (dedent lines) ∧
        ∃ shown ∈ dedent lines, ∃ c rest, shown = c :: rest ∧ Text.isBlank c = false) ∧
    ((∀ line ∈ lines, line.allBlank) → dedent lines = lines) ∧
    dedent (dedent lines) = dedent lines := by
  refine ⟨List.length_map _, ?_, fun hblank => ?_, dedent_dedent lines⟩
  · rintro ⟨line, hline, hblank⟩
    obtain ⟨width, hwidth⟩ := exists_commonIndent? hline hblank
    have hleast := commonIndent?_eq_some_iff.1 hwidth
    exact ⟨width, hleast, hleast.forall₂_dedent, exists_flush_of_commonIndent? (commonIndent?_dedent hwidth)⟩
  · exact dedent_eq_self (by rw [commonIndent?_eq_none_iff.2 hblank]; rfl)

/-- A line after a tab, one after two ideographic spaces, and a short and a long blank line. -/
def mixedIndent : List Text := ["\tif".toList, "　　x".toList, [], "   ".toList]

theorem dedent_leastIndent_mixedIndent :
    (∃ line ∈ mixedIndent, line.allBlank = false) ∧
      (∃ width, LeastIndent width mixedIndent ∧ List.Forall₂ (Outdented width) mixedIndent (dedent mixedIndent)) ∧
      dedent mixedIndent = ["if".toList, "　x".toList, [], "  ".toList] ∧
      (∀ line ∈ mixedIndent.drop 2, line.allBlank) ∧ dedent (mixedIndent.drop 2) = mixedIndent.drop 2 := by
  have htext : ∃ line ∈ mixedIndent, line.allBlank = false := by decide
  have hblank : ∀ line ∈ mixedIndent.drop 2, line.allBlank := by decide
  obtain ⟨-, hcut, -⟩ := dedent_leastIndent mixedIndent
  obtain ⟨-, -, hsame, -⟩ := dedent_leastIndent (mixedIndent.drop 2)
  obtain ⟨width, hleast, hall, -⟩ := hcut htext
  exact ⟨htext, ⟨width, hleast, hall⟩, by decide +kernel, hblank, hsame hblank⟩

end Snippet

end Excerpt
