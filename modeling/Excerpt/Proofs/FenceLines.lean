import Excerpt.Document.Fence
import Mathlib.Data.List.DropRight

/-!
# Reading fences

`Text.IsLines` says which lists of lines are the lines of a text, so a text that is put together from such lines falls
apart into them again (`IsLines.rawLines_flatten`). `Fence.ofLine?_eq_some_iff` says which lines open a block: the
indent, the marker and the width are those of the line, and the marker does not go on after the fence.
-/

namespace Excerpt

namespace Text
variable {t u line : Text} {lines lines' before after : List Text} {c : Char}

/-! ### Lines with their ends -/

/-- A line that ends with its only line feed. -/
def IsLine (line : Text) : Prop := ∃ t, '\n' ∉ t ∧ line = t ++ ['\n']

/-- The lines of a text: each one ends with its only line feed, which only the last one may lack. -/
inductive IsLines : List Text → Prop
  | nil : IsLines []
  | last {line : Text} (hne : line ≠ []) (h : '\n' ∉ line) : IsLines [line]
  | cons {line : Text} {lines : List Text} (h : IsLine line) (hl : IsLines lines) : IsLines (line :: lines)

theorem isLines_rawLines (t : Text) : IsLines (rawLines t) := by
  induction t with
  | nil => exact .nil
  | cons c t ih =>
    unfold rawLines
    split
    next hc => exact .cons ⟨[], by simp, by simp [hc]⟩ ih
    next hc =>
      split
      next => exact .last (by simp) (by simpa using Ne.symm hc)
      next line rest h =>
        rw [h] at ih
        cases ih with
        | last hne hl => exact .last (by simp) (by simp [Ne.symm hc, hl])
        | cons hl hrest =>
          obtain ⟨u, hu, rfl⟩ := hl
          exact .cons ⟨c :: u, by simp [Ne.symm hc, hu], rfl⟩ hrest

theorem rawLines_append_lineFeed (h : '\n' ∉ t) (u : Text) :
    rawLines (t ++ '\n' :: u) = (t ++ ['\n']) :: rawLines u := by
  induction t with
  | nil => simp [rawLines]
  | cons c t ih =>
    obtain ⟨hc, ht⟩ := List.ne_and_not_mem_of_not_mem_cons h
    rw [List.cons_append, rawLines, if_neg (Ne.symm hc), ih ht]
    rfl

theorem rawLines_of_not_mem (hne : t ≠ []) (h : '\n' ∉ t) : rawLines t = [t] := by
  induction t with
  | nil => exact absurd rfl hne
  | cons c t ih =>
    obtain ⟨hc, ht⟩ := List.ne_and_not_mem_of_not_mem_cons h
    rw [rawLines, if_neg (Ne.symm hc)]
    cases t with
    | nil => rfl
    | cons d t => rw [ih (List.cons_ne_nil d t) ht]

/-- A text of whole lines: it is empty or ends with a line feed. -/
def WholeLines (t : Text) : Prop := t = [] ∨ t.getLast? = some '\n'

instance (t : Text) : Decidable t.WholeLines := inferInstanceAs (Decidable (_ ∨ _))

theorem WholeLines.of_cons (h : WholeLines (c :: t)) : WholeLines t := by
  rcases h with h | h
  · cases h
  · cases t with
    | nil => exact .inl rfl
    | cons d t => exact .inr (by simpa using h)

theorem WholeLines.rawLines_append (h : WholeLines t) (u : Text) : rawLines (t ++ u) = rawLines t ++ rawLines u := by
  induction t with
  | nil => rfl
  | cons c t ih =>
    have ih := ih h.of_cons
    rw [List.cons_append, rawLines, rawLines, ih]
    by_cases hc : c = '\n'
    · rw [if_pos hc, if_pos hc, List.cons_append]
    · -- another line feed follows, so the first line of the rest lies in the rest of the whole lines
      have hne : rawLines t ≠ [] := by
        intro hnil
        have ht : t = [] := by rw [← flatten_rawLines t, hnil, List.flatten_nil]
        subst ht
        rcases h with h | h
        · cases h
        · exact hc (by simpa using h)
      obtain ⟨line, rest, hl⟩ := List.exists_cons_of_ne_nil hne
      rw [if_neg hc, if_neg hc, hl]
      rfl

namespace IsLines

theorem rawLines_flatten (h : IsLines lines) : rawLines lines.flatten = lines := by
  induction h with
  | nil => rfl
  | last hne h => simpa using rawLines_of_not_mem hne h
  | cons h _ ih =>
    obtain ⟨t, ht, rfl⟩ := h
    rw [List.flatten_cons, List.append_assoc, List.singleton_append, rawLines_append_lineFeed ht, ih]

theorem append (hb : ∀ line ∈ before, IsLine line) (ha : IsLines after) : IsLines (before ++ after) := by
  induction before with
  | nil => exact ha
  | cons line before ih =>
    obtain ⟨h, hb⟩ := List.forall_mem_cons.1 hb
    exact .cons h (ih hb)

/-- Other lines can stand in place of the last ones, but not after a line without a line feed. -/
theorem replace (h : IsLines (before ++ lines)) (hl : IsLines lines') (hne : lines = [] → lines' = []) :
    IsLines (before ++ lines') := by
  induction before with
  | nil => exact hl
  | cons line before ih =>
    rw [List.cons_append] at h ⊢
    generalize hr : before ++ lines = rest at h
    cases h with
    | last hline h =>
      obtain ⟨rfl, rfl⟩ := List.append_eq_nil_iff.1 hr
      rw [hne rfl]
      exact .last hline h
    | cons h hrest => exact .cons h (ih (hr ▸ hrest))

theorem right (h : IsLines (before ++ after)) : IsLines after := by
  induction before with
  | nil => exact h
  | cons line before ih =>
    rw [List.cons_append] at h
    generalize hr : before ++ after = rest at h
    cases h with
    | last =>
      obtain ⟨rfl, rfl⟩ := List.append_eq_nil_iff.1 hr
      exact .nil
    | cons _ hrest => exact ih (hr ▸ hrest)

theorem eq_nil_of_getLast? (h : IsLines (before ++ line :: after)) (hl : line.getLast? ≠ some '\n') : after = [] := by
  cases h.right with
  | last => rfl
  | cons h _ =>
    obtain ⟨t, -, rfl⟩ := h
    simp at hl

end IsLines

theorem not_mem_dropLineEnd (h : IsLine line ∨ '\n' ∉ line) : '\n' ∉ dropLineEnd line := by
  unfold dropLineEnd
  rcases h with ⟨t, ht, rfl⟩ | h
  · rw [List.reverse_append, List.reverse_singleton, List.singleton_append]
    split
    next u hr =>
      have hu : t = u.reverse ++ ['\r'] := by simpa using congrArg List.reverse (List.cons.inj hr).2
      exact fun hm => ht (hu ▸ List.mem_append_left _ hm)
    next u _ hr =>
      have hu : t = u.reverse := by simpa using congrArg List.reverse (List.cons.inj hr).2
      exact hu ▸ ht
    next h => exact absurd rfl (h _)
  · split
    next u hr => exact absurd (List.mem_reverse.1 (hr ▸ List.mem_cons_self)) h
    next u _ hr => exact absurd (List.mem_reverse.1 (hr ▸ List.mem_cons_self)) h
    next => exact h

theorem IsLines.isLine_or (h : IsLines lines) (hm : line ∈ lines) : IsLine line ∨ '\n' ∉ line := by
  induction h with
  | nil => exact absurd hm List.not_mem_nil
  | last _ h => exact .inr (List.mem_singleton.1 hm ▸ h)
  | cons h _ ih =>
    rcases List.mem_cons.1 hm with rfl | hm
    · exact .inl h
    · exact ih hm

theorem not_mem_of_mem_lines (h : line ∈ t.lines) : '\n' ∉ line := by
  obtain ⟨raw, hm, rfl⟩ := List.mem_map.1 h
  exact not_mem_dropLineEnd ((isLines_rawLines t).isLine_or hm)

/-! ### Pieces of a text -/

theorem breakAt_eq_some (h : breakAt c t = some (u, line)) : t = u ++ c :: line ∧ c ∉ u := by
  induction t generalizing u with
  | nil => cases h
  | cons d t ih =>
    unfold breakAt at h
    split at h
    next hd =>
      cases h
      exact ⟨by rw [hd, List.nil_append], List.not_mem_nil⟩
    next hd =>
      obtain ⟨⟨v, w⟩, hb, hv⟩ := Option.map_eq_some_iff.1 h
      cases hv
      obtain ⟨rfl, hc⟩ := ih hb
      exact ⟨rfl, List.not_mem_cons_of_ne_of_not_mem (Ne.symm hd) hc⟩

theorem mem_of_mem_trim (h : c ∈ trim t) : c ∈ t :=
  (List.dropWhile_suffix _).subset ((List.rdropWhile_prefix isBlank (trimStart t)).subset h)

theorem not_isBlank_of_getLast?_trim (h : (trim t).getLast? = some c) : isBlank c = false := by
  have hne : trim t ≠ [] := fun h' => by rw [h'] at h; cases h
  rw [List.getLast?_eq_some_getLast hne, Option.some.injEq] at h
  rw [← h]
  exact Bool.eq_false_iff.2 (List.rdropWhile_last_not isBlank (trimStart t) hne)

theorem mem_joinWith {sep : Text} {parts : List Text} (h : c ∈ joinWith sep parts) :
    c ∈ sep ∨ ∃ part ∈ parts, c ∈ part := by
  fun_induction joinWith sep parts with
  | case1 => exact absurd h List.not_mem_nil
  | case2 part => exact .inr ⟨part, List.mem_singleton_self _, h⟩
  | case3 part rest _ ih =>
    rcases List.mem_append.1 h with h | h
    · rcases List.mem_append.1 h with h | h
      · exact .inr ⟨part, List.mem_cons_self, h⟩
      · exact .inl h
    · exact (ih h).imp_right fun ⟨part, hp, hc⟩ => ⟨part, List.mem_cons_of_mem _ hp, hc⟩

end Text

namespace Fence
open Text (isBlank)
variable {fence : Fence} {line t : Text} {c : Char} {n : Nat}

/-! ### What opens and closes a block -/

theorem leading_replicate_append (h : t.head? ≠ some c) : leading c (List.replicate n c ++ t) = n := by
  have ht : t.takeWhile (· == c) = [] := by
    cases t with
    | nil => rfl
    | cons d t => exact List.takeWhile_cons_of_neg (by simpa using h)
  rw [leading, List.takeWhile_append_of_pos (by simp), ht, List.append_nil, List.length_replicate]

theorem exists_leading (c : Char) (t : Text) :
    ∃ rest, t = List.replicate (leading c t) c ++ rest ∧ rest.head? ≠ some c := by
  have htake : t.takeWhile (· == c) = List.replicate (leading c t) c :=
    List.eq_replicate_of_mem fun d hd => by simpa using List.mem_takeWhile_imp hd
  refine ⟨t.dropWhile (· == c), ?_, fun h => ?_⟩
  · rw [← htake, List.takeWhile_append_dropWhile]
  · have := List.head?_dropWhile_not (· == c) t
    simp [h] at this

theorem lineContent_lineFeed (t : Text) : lineContent (t ++ ['\n']) = lineContent t :=
  List.rdropWhile_concat_pos _ t '\n' rfl

theorem lineContent_eq_self (h : ∀ c ∈ t.getLast?, isBlank c = false) : lineContent t = t := by
  refine List.rdropWhile_eq_self_iff.2 fun hne hc => ?_
  have hb := h _ (List.getLast?_eq_some_getLast hne)
  simp only [Bool.or_eq_true, beq_iff_eq] at hc
  rcases hc with hc | hc <;> rw [hc] at hb <;> exact absurd hb (by decide)

theorem not_mem_lineContent (h : Text.IsLine line ∨ '\n' ∉ line) : '\n' ∉ lineContent line := by
  rcases h with ⟨t, ht, rfl⟩ | h
  · rw [lineContent_lineFeed]
    exact fun hm => ht ((List.rdropWhile_prefix _ t).subset hm)
  · exact fun hm => h ((List.rdropWhile_prefix _ line).subset hm)

/-- What a fence that opens a block is like, whatever stands after it. -/
structure Opens (fence : Fence) : Prop where
  indent_le : fence.indent ≤ maxIndent
  marker : fence.marker = '`' ∨ fence.marker = '~'
  width_le : minWidth ≤ fence.width
  info : ¬ (fence.marker = '`' ∧ '`' ∈ fence.info)

namespace Opens

theorem marker_ne_space (h : fence.Opens) : fence.marker ≠ ' ' := by
  rcases h.marker with h | h <;> rw [h] <;> decide

theorem marker_ne_lineFeed (h : fence.Opens) : fence.marker ≠ '\n' := by
  rcases h.marker with h | h <;> rw [h] <;> decide

theorem isBlank_marker (h : fence.Opens) : isBlank fence.marker = false := by
  rcases h.marker with h | h <;> rw [h] <;> decide

theorem replicate_eq_cons (h : fence.Opens) :
    List.replicate fence.width fence.marker = fence.marker :: List.replicate (fence.width - 1) fence.marker := by
  have hw : 3 ≤ fence.width := h.width_le
  rw [← List.replicate_succ]
  congr
  omega

end Opens

/-- A line opens a block if it is made of the fence and a text that does not go on with the marker. -/
theorem ofLine?_eq_some_iff : ofLine? line = some fence ↔ fence.Opens ∧
    ∃ after, lineContent line = List.replicate fence.indent ' ' ++ (List.replicate fence.width fence.marker ++ after) ∧
      after.head? ≠ some fence.marker ∧ fence.info = Text.trim after ∧
      fence.infoOffset = fence.indent + fence.width + Text.byteLength (Text.indentation after) := by
  constructor
  · -- cut off the spaces, then the markers; what is left starts with neither
    intro h
    obtain ⟨t, ht, -⟩ := exists_leading ' ' (lineContent line)
    unfold ofLine? at h
    have hdrop : (lineContent line).drop (leading ' ' (lineContent line)) = t := by
      conv_lhs => arg 2; rw [ht]
      rw [List.drop_left' (List.length_replicate ..)]
    simp only [hdrop] at h
    cases t with
    | nil => cases h
    | cons marker rest =>
      obtain ⟨after, hafter, hhead⟩ := exists_leading marker rest
      have hdrop' : rest.drop (leading marker rest) = after := by
        conv_lhs => arg 2; rw [hafter]
        rw [List.drop_left' (List.length_replicate ..)]
      simp only [Nat.add_sub_cancel, hdrop', Option.ite_none_right_eq_some, Bool.and_eq_true, decide_eq_true_eq,
        Bool.or_eq_true, beq_iff_eq, Bool.not_eq_true', Bool.and_eq_false_imp, Option.some.injEq] at h
      obtain ⟨⟨⟨⟨hi, hm⟩, hw⟩, hinfo⟩, rfl⟩ := h
      refine ⟨⟨hi, hm, hw, fun ⟨hm, hmem⟩ => ?_⟩, after, ?_, hhead, rfl, rfl⟩
      · simpa [hmem] using hinfo hm
      · rw [List.replicate_succ, List.cons_append, ← hafter, ← ht]
  · rintro ⟨ho, after, hline, hhead, hinfo, hoffset⟩
    have hcons : List.replicate fence.width fence.marker ++ after =
        fence.marker :: (List.replicate (fence.width - 1) fence.marker ++ after) := by
      rw [ho.replicate_eq_cons, List.cons_append]
    have hindent : leading ' ' (lineContent line) = fence.indent := by
      rw [hline]
      exact leading_replicate_append (by rw [hcons]; simpa using ho.marker_ne_space)
    -- the first marker is read on its own, so the count starts at one
    have hw : 3 ≤ fence.width := ho.width_le
    have hwidth : fence.width - 1 + 1 = fence.width := by omega
    unfold ofLine?
    simp only [hindent]
    rw [hline, List.drop_left' (List.length_replicate ..), hcons]
    simp only [leading_replicate_append hhead, hwidth, List.drop_left' (List.length_replicate ..), ← hinfo, ← hoffset]
    rw [if_pos]
    simp only [Bool.and_eq_true, decide_eq_true_eq, Bool.or_eq_true, beq_iff_eq, Bool.not_eq_true',
      Bool.and_eq_false_imp]
    exact ⟨⟨⟨ho.indent_le, ho.marker⟩, ho.width_le⟩, fun hm => by simpa using fun hmem => ho.info ⟨hm, hmem⟩⟩

theorem Opens.of_ofLine? (h : ofLine? line = some fence) : fence.Opens := (ofLine?_eq_some_iff.1 h).1

theorem not_mem_info (hl : Text.IsLine line ∨ '\n' ∉ line) (h : ofLine? line = some fence) : '\n' ∉ fence.info := by
  obtain ⟨-, after, hline, -, hinfo, -⟩ := ofLine?_eq_some_iff.1 h
  intro hm
  rw [hinfo] at hm
  refine not_mem_lineContent hl ?_
  rw [hline]
  exact List.mem_append_right _ (List.mem_append_right _ (Text.mem_of_mem_trim hm))

end Fence

end Excerpt
