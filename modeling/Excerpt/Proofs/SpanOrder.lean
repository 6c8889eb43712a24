import Excerpt.Proofs.IndexContents
import Excerpt.Snippet.Extract

/-!
# The order of spans

Spans are sorted by their start, and spans with one start keep their order (`filter_mergeSort`), so of those the first
is kept (`filter_orderSpans`). The spans in order are then the strictly ascending list of the first ones
(`pairwise_orderSpans`, `mem_orderSpans_iff`), which does not depend on how spans with different starts were mixed. The
spans of an index node are such a list already.
-/

namespace Excerpt

namespace Snippet
open orderSpans (dropRepeats)
variable {span s : Span} {spans spans' rest : List Span} {start : Nat}

/-! ### Sorting -/

theorem start_le_trans (a b c : Span) (hab : decide (a.start ≤ b.start) = true)
    (hbc : decide (b.start ≤ c.start) = true) : decide (a.start ≤ c.start) = true := by
  simp only [decide_eq_true_eq] at hab hbc ⊢
  omega

theorem start_le_total (a b : Span) : (decide (a.start ≤ b.start) || decide (b.start ≤ a.start)) = true := by
  simp only [Bool.or_eq_true, decide_eq_true_eq]
  omega

theorem pairwise_mergeSort (spans : List Span) :
    (spans.mergeSort fun a b => a.start ≤ b.start).Pairwise fun a b => a.start ≤ b.start :=
  (List.pairwise_mergeSort start_le_trans start_le_total spans).imp fun h => of_decide_eq_true h

/-- Sorting keeps the order of spans with one start. -/
theorem filter_mergeSort (spans : List Span) (start : Nat) :
    ((spans.mergeSort fun a b => a.start ≤ b.start).filter fun s => s.start = start) =
      spans.filter fun s => s.start = start := by
  have hsame : (spans.filter fun s => s.start = start).Pairwise fun a b => decide (a.start ≤ b.start) = true := by
    refine List.pairwise_of_forall_mem_list fun a ha b hb => ?_
    have ha := (List.mem_filter.1 ha).2
    have hb := (List.mem_filter.1 hb).2
    simp only [decide_eq_true_eq] at ha hb ⊢
    omega
  -- those with one start are ascending as they are given, so they are found in the sorted list in that order
  have hsub := (List.sublist_mergeSort start_le_trans start_le_total hsame List.filter_sublist).filter
    fun s => decide (s.start = start)
  simp only [List.filter_filter, Bool.and_self] at hsub
  exact (hsub.eq_of_length ((List.mergeSort_perm spans _).filter _).length_eq.symm).symm

/-! ### Dropping repeats -/

theorem dropRepeats_sublist_self (spans : List Span) : List.Sublist (dropRepeats spans) spans := by
  induction spans with
  | nil => exact .slnil
  | cons span rest ih =>
    rw [dropRepeats]
    refine .cons_cons span ?_
    split
    next => exact List.nil_sublist rest
    next next others hr =>
      rw [hr] at ih
      split
      · exact (List.sublist_cons_self next others).trans ih
      · exact ih

/-- In ascending spans, those that start where the first does are dropped. -/
theorem dropRepeats_cons (h : (dropRepeats rest).Pairwise fun a b => a.start < b.start)
    (hle : ∀ s ∈ dropRepeats rest, span.start ≤ s.start) :
    dropRepeats (span :: rest) = span :: (dropRepeats rest).filter fun s => s.start ≠ span.start := by
  rw [dropRepeats]
  cases hr : dropRepeats rest with
  | nil => rfl
  | cons next others =>
    rw [hr] at h hle
    obtain ⟨hnext, -⟩ := List.pairwise_cons.1 h
    have hlt := hle next List.mem_cons_self
    have hothers : (others.filter fun s => s.start ≠ span.start) = others :=
      List.filter_eq_self.2 fun s hs => by
        have := hnext s hs
        simp only [ne_eq, decide_not, Bool.not_eq_true', decide_eq_false_iff_not]
        omega
    simp only
    split
    next heq => rw [List.filter_cons_of_neg (by simpa using heq), hothers]
    next hne => rw [List.filter_cons_of_pos (by simpa using hne), hothers]

theorem start_le_of_mem_dropRepeats (h : (span :: rest).Pairwise fun a b => a.start ≤ b.start)
    (hs : s ∈ dropRepeats rest) : span.start ≤ s.start :=
  List.rel_of_pairwise_cons h ((dropRepeats_sublist_self rest).subset hs)

theorem pairwise_dropRepeats (h : spans.Pairwise fun a b => a.start ≤ b.start) :
    (dropRepeats spans).Pairwise fun a b => a.start < b.start := by
  induction spans with
  | nil => exact .nil
  | cons span rest ih =>
    have hrest := ih h.of_cons
    rw [dropRepeats_cons hrest fun s hs => start_le_of_mem_dropRepeats h hs]
    refine List.pairwise_cons.2 ⟨fun s hs => ?_, hrest.filter _⟩
    obtain ⟨hs, hne⟩ := List.mem_filter.1 hs
    have hle := start_le_of_mem_dropRepeats h hs
    have hne : s.start ≠ span.start := by simpa using hne
    omega

/-- Of several spans with one start the first is kept. -/
theorem filter_dropRepeats (h : spans.Pairwise fun a b => a.start ≤ b.start) (start : Nat) :
    ((dropRepeats spans).filter fun s => s.start = start) = (spans.filter fun s => s.start = start).take 1 := by
  induction spans with
  | nil => rfl
  | cons span rest ih =>
    rw [dropRepeats_cons (pairwise_dropRepeats h.of_cons) fun s hs => start_le_of_mem_dropRepeats h hs]
    by_cases hstart : span.start = start
    · subst hstart
      rw [List.filter_cons_of_pos (by simp), List.filter_cons_of_pos (by simp), List.filter_filter]
      simp
    · have hother : ∀ s : Span,
          (decide (s.start = start) && decide (s.start ≠ span.start)) = decide (s.start = start) := by
        intro s
        by_cases hs : s.start = start
        · simp [hs, Ne.symm hstart]
        · simp [hs]
      rw [List.filter_cons_of_neg (by simpa using hstart), List.filter_cons_of_neg (by simpa using hstart),
        List.filter_filter, ← ih h.of_cons]
      simp only [hother]

theorem dropRepeats_eq_self (h : spans.Pairwise fun a b => a.start < b.start) : dropRepeats spans = spans := by
  induction spans with
  | nil => rfl
  | cons span rest ih =>
    have hrest := ih h.of_cons
    have hlt : ∀ s ∈ rest, span.start < s.start := fun s hs => List.rel_of_pairwise_cons h hs
    rw [dropRepeats_cons (by rw [hrest]; exact h.of_cons) (by rw [hrest]; exact fun s hs => (hlt s hs).le), hrest]
    exact congrArg (span :: ·) (List.filter_eq_self.2 fun s hs => by simpa using (hlt s hs).ne')

/-! ### Spans in order -/

theorem pairwise_orderSpans (spans : List Span) : (orderSpans spans).Pairwise fun a b => a.start < b.start :=
  pairwise_dropRepeats (pairwise_mergeSort spans)

theorem filter_orderSpans (spans : List Span) (start : Nat) :
    ((orderSpans spans).filter fun s => s.start = start) = (spans.filter fun s => s.start = start).take 1 := by
  rw [orderSpans, filter_dropRepeats (pairwise_mergeSort spans), filter_mergeSort]

/-- The spans in order are those that no other span with their start precedes. -/
theorem mem_orderSpans_iff : span ∈ orderSpans spans ↔ spans.find? (fun s => s.start = span.start) = some span := by
  have hmem : span ∈ orderSpans spans ↔ span ∈ (orderSpans spans).filter fun s => s.start = span.start := by
    simp [List.mem_filter]
  rw [hmem, filter_orderSpans, ← List.head?_filter, List.take_one]
  exact Option.mem_toList

theorem orderSpans_subset_self (spans : List Span) : orderSpans spans ⊆ spans := fun _ hs =>
  List.mem_of_find?_eq_some (mem_orderSpans_iff.1 hs)

/-- Ascending lists with the same spans are equal. -/
theorem eq_of_mem_iff (h : spans.Pairwise fun a b => a.start < b.start)
    (h' : spans'.Pairwise fun a b => a.start < b.start) (hmem : ∀ span, span ∈ spans ↔ span ∈ spans') :
    spans = spans' := by
  have hnodup : ∀ {l : List Span}, (l.Pairwise fun a b => a.start < b.start) → l.Nodup := fun hl =>
    hl.imp fun hlt heq => by rw [heq] at hlt; exact lt_irrefl _ hlt
  refine List.Perm.eq_of_pairwise (fun a b _ _ hab hba => absurd hab hba.asymm) h h' ?_
  exact (List.perm_ext_iff_of_nodup (hnodup h) (hnodup h')).2 hmem

/-- The lists have the same spans, and those with one start in the same order. -/
structure Shuffled (spans spans' : List Span) : Prop where
  perm : spans'.Perm spans
  order : ∀ start, (spans'.filter fun s => s.start = start) = spans.filter fun s => s.start = start

theorem orderSpans_eq_of_shuffled (h : Shuffled spans spans') : orderSpans spans' = orderSpans spans := by
  refine eq_of_mem_iff (pairwise_orderSpans _) (pairwise_orderSpans _) fun span => ?_
  rw [mem_orderSpans_iff, mem_orderSpans_iff, ← List.head?_filter, ← List.head?_filter, h.order]

theorem orderSpans_eq_self (h : spans.Pairwise fun a b => a.start < b.start) : orderSpans spans = spans := by
  rw [orderSpans, List.mergeSort_of_pairwise (h.imp fun hlt => decide_eq_true hlt.le), dropRepeats_eq_self h]

theorem orderSpans_spans_of_walk? {tree : DeclarationTree} {path : List Text} {node : Index.Node}
    (h : (Index.build tree).root.walk? path = some node) : orderSpans node.spans = node.spans :=
  orderSpans_eq_self (List.pairwise_map.1 ((Index.models_build tree).ordered path node h).spans)

/-- Spans give the snippets of the first span of each start, by ascending start, with a blank line between two. So
shuffling spans with different starts changes nothing, and the spans of an index node give their snippets as they are
stored. -/
theorem extractSpans_firstOfEach (source : Text) (mode : Mode) (spans : List Span) :
    (∃ ordered : List Span,
      extractSpans source mode spans = Text.joinWith ['\n', '\n'] (ordered.map (extractSpan source mode)) ∧
      (ordered.Pairwise fun a b => a.start < b.start) ∧
      ∀ span, span ∈ ordered ↔ spans.find? (fun s => s.start = span.start) = some span) ∧
    (∀ spans', Shuffled spans spans' → extractSpans source mode spans' = extractSpans source mode spans) ∧
    ∀ (tree : DeclarationTree) (path : List Text) (node : Index.Node),
      (Index.build tree).root.walk? path = some node →
        extractSpans source mode node.spans =
          Text.joinWith ['\n', '\n'] (node.spans.map (extractSpan source mode)) := by
  refine ⟨⟨orderSpans spans, rfl, pairwise_orderSpans spans, fun _ => mem_orderSpans_iff⟩, fun spans' h => ?_,
    fun tree path node h => ?_⟩
  · rw [extractSpans, orderSpans_eq_of_shuffled h, extractSpans]
  · rw [extractSpans, orderSpans_spans_of_walk? h]

/-- Three spans of two lines, two of which start at the same character. -/
def twoStarts : List Span := [⟨4, 7⟩, ⟨0, 3⟩, ⟨4, 5⟩]

theorem extractSpans_firstOfEach_twoStarts :
    Shuffled twoStarts [⟨0, 3⟩, ⟨4, 7⟩, ⟨4, 5⟩] ∧
      extractSpans "abc\ndef".toList .full [⟨0, 3⟩, ⟨4, 7⟩, ⟨4, 5⟩] = extractSpans "abc\ndef".toList .full twoStarts ∧
      extractSpans "abc\ndef".toList .full twoStarts = "abc\n\ndef".toList ∧
      ∃ node, (Index.build Index.overloads).root.walk? [['C'], ['R']] = some node ∧ node.spans = [⟨20, 30⟩, ⟨40, 50⟩] ∧
        extractSpans "abc\ndef".toList .full node.spans =
          Text.joinWith ['\n', '\n'] (node.spans.map (extractSpan "abc\ndef".toList .full)) := by
  obtain ⟨-, hshuffled, hnode⟩ := extractSpans_firstOfEach "abc\ndef".toList .full twoStarts
  have hshuffle : Shuffled twoStarts [⟨0, 3⟩, ⟨4, 7⟩, ⟨4, 5⟩] := by
    refine ⟨by decide, fun start => ?_⟩
    by_cases hzero : start = 0
    · subst hzero
      decide
    · simp [twoStarts, List.filter_cons, Ne.symm hzero]
  have heq := hshuffled _ hshuffle
  have htext : extractSpans "abc\ndef".toList .full [⟨0, 3⟩, ⟨4, 7⟩, ⟨4, 5⟩] = "abc\n\ndef".toList := by
    rw [extractSpans, orderSpans, List.mergeSort_of_pairwise (by decide)]
    decide +kernel
  exact ⟨hshuffle, heq, heq ▸ htext, _, rfl, rfl, hnode Index.overloads [['C'], ['R']] _ rfl⟩

end Snippet

end Excerpt
