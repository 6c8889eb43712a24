import Excerpt.Proofs.CheckedSlices
import Excerpt.Proofs.SpanOrder

/-!
# Snippets of a part of a source

A source stands between two texts, and its spans move by the length of the text before it. If that text is made of whole
lines, then looking back from a span for the start of its first line stops within the source, as before
(`lastLine_append`). Each span then has the text that it had (`spanText_shift`). Since moving all spans keeps their
order, so does each list of spans.
-/

namespace Excerpt

/-- The span `n` bytes further on. -/
def Span.shift (n : Nat) (span : Span) : Span := ⟨n + span.start, n + span.stop⟩

namespace Snippet
open orderSpans (dropRepeats)
variable {source before lead body rest : Text} {span : Span}

/-! ### The text of a span -/

/-- Whole lines before a text are no part of its last line. -/
theorem lastLine_append (h : before.WholeLines) (t : Text) : lastLine (before ++ t) = lastLine t := by
  obtain ⟨whole, ht, hwhole, -⟩ := exists_append_lastLine t
  have hlines : (before ++ whole).WholeLines := h.append hwhole
  rw [ht, ← List.append_assoc, lastLine_append_of_not_mem _ (not_mem_lastLine t), lastLine_of_wholeLines hlines,
    lastLine_append_of_not_mem _ (not_mem_lastLine t), lastLine_of_wholeLines hwhole]

theorem spanText_of_split (hsource : source = lead ++ (body ++ rest))
    (hstart : min span.start span.stop = lead.byteLength)
    (hstop : span.stop = lead.byteLength + body.byteLength) :
    spanText source span = if (lastLine lead).allBlank then lastLine lead ++ body else body := by
  have hlength : source.byteLength = lead.byteLength + (body.byteLength + rest.byteLength) := by
    rw [hsource, Text.byteLength_append, Text.byteLength_append]
  have hmin : min span.stop source.byteLength = span.stop := by omega
  have hbody : Text.isBoundary (lead.byteLength + body.byteLength) source := by
    rw [hsource, Text.isBoundary_append, Text.isBoundary_byteLength_append]
  have hlead : Text.isBoundary lead.byteLength source := by
    rw [hsource, Text.isBoundary_byteLength_append]
  simp only [spanText, hmin, hstart]
  rw [hstop, hbody, hlead, hsource, Text.takeBytes_append, Text.slice_append]
  rfl

/-- A span that starts and stops between characters has the same text if whole lines precede the source and anything
follows it. -/
theorem spanText_shift (hbefore : before.WholeLines) (after : Text) (hstart : Text.isBoundary span.start source)
    (hstop : Text.isBoundary span.stop source) :
    spanText (before ++ source ++ after) (span.shift before.byteLength) = spanText source span := by
  have hmin : Text.isBoundary (min span.start span.stop) source := by
    rcases Nat.le_total span.start span.stop with hle | hle
    · rwa [Nat.min_eq_left hle]
    · rwa [Nat.min_eq_right hle]
  obtain ⟨lead, body, rest, hsource, hlead, hbody⟩ := Text.exists_of_isBoundary (Nat.min_le_right _ _) hmin hstop
  have hwider : before ++ source ++ after = (before ++ lead) ++ (body ++ (rest ++ after)) := by
    rw [hsource]
    simp only [List.append_assoc]
  have hlead' : min (span.shift before.byteLength).start (span.shift before.byteLength).stop =
      (before ++ lead).byteLength := by
    rw [Text.byteLength_append, ← hlead, Span.shift, Nat.add_min_add_left]
  have hbody' : (span.shift before.byteLength).stop = (before ++ lead).byteLength + body.byteLength := by
    rw [Text.byteLength_append, Span.shift, hbody, Nat.add_assoc]
  rw [spanText_of_split hwider hlead' hbody', spanText_of_split hsource hlead hbody, lastLine_append hbefore]

/-! ### The order of spans -/

theorem dropRepeats_map_shift (n : Nat) (spans : List Span) :
    dropRepeats (spans.map (Span.shift n)) = (dropRepeats spans).map (Span.shift n) := by
  induction spans with
  | nil => rfl
  | cons span rest ih =>
    rw [List.map_cons, dropRepeats, dropRepeats, ih]
    cases dropRepeats rest with
    | nil => rfl
    | cons next others =>
      have hstart : (next.shift n).start = (span.shift n).start ↔ next.start = span.start := Nat.add_left_cancel_iff
      simp only [List.map_cons, hstart]
      split <;> rfl

theorem orderSpans_map_shift (n : Nat) (spans : List Span) :
    orderSpans (spans.map (Span.shift n)) = (orderSpans spans).map (Span.shift n) := by
  have hstart (a b : Span) : decide (a.start ≤ b.start) = decide ((a.shift n).start ≤ (b.shift n).start) :=
    decide_eq_decide.2 Nat.add_le_add_iff_left.symm
  rw [orderSpans, ← List.map_mergeSort fun a _ b _ => hstart a b, dropRepeats_map_shift, orderSpans]

/-- Whole lines before a source and any text after it leave the snippets of its spans as they are, in every mode. -/
theorem extract_shift (source before after : Text) (mode : Mode) (hbefore : before.WholeLines) :
    (∀ span, Text.isBoundary span.start source → Text.isBoundary span.stop source →
      extractSpan (before ++ source ++ after) mode (span.shift before.byteLength) = extractSpan source mode span) ∧
    ∀ spans : List Span, (∀ span ∈ spans, Text.isBoundary span.start source ∧ Text.isBoundary span.stop source) →
      extractSpans (before ++ source ++ after) mode (spans.map (Span.shift before.byteLength)) =
        extractSpans source mode spans := by
  have hone : ∀ span, Text.isBoundary span.start source → Text.isBoundary span.stop source →
      extractSpan (before ++ source ++ after) mode (span.shift before.byteLength) = extractSpan source mode span := by
    intro span hstart hstop
    rw [extractSpan, spanText_shift hbefore after hstart hstop, extractSpan]
  refine ⟨hone, fun spans hspans => ?_⟩
  rw [extractSpans, extractSpans, orderSpans_map_shift, List.map_map]
  congr 1
  refine List.map_congr_left fun span hspan => ?_
  obtain ⟨hstart, hstop⟩ := hspans span (orderSpans_subset_self spans hspan)
  exact hone span hstart hstop

/-- A class with a letter of two bytes, and the spans of its method and of a statement there. -/
def indentedMethod : Text × List Span :=
  ("class é \x7b\n    void f() \x7b\n        g();\n    \x7d\n\x7d\n".toList, [⟨15, 44⟩, ⟨34, 38⟩])

theorem extract_shift_indentedMethod :
    Text.WholeLines "// ü\n".toList ∧
      (∀ span ∈ indentedMethod.2, Text.isBoundary span.start indentedMethod.1 ∧
        Text.isBoundary span.stop indentedMethod.1) ∧
      extractSpan ("// ü\n".toList ++ indentedMethod.1 ++ "/* é".toList) .outline ⟨21, 50⟩ =
        "void f() \x7b\n    // ...\n\x7d".toList ∧
      extractSpans ("// ü\n".toList ++ indentedMethod.1 ++ "/* é".toList) .full [⟨21, 50⟩, ⟨40, 44⟩] =
        "void f() \x7b\n    g();\n\x7d\n\ng();".toList := by
  have hbefore : Text.WholeLines "// ü\n".toList := by decide
  have hspans : ∀ span ∈ indentedMethod.2, Text.isBoundary span.start indentedMethod.1 ∧
      Text.isBoundary span.stop indentedMethod.1 := by decide
  obtain ⟨hone, -⟩ := extract_shift indentedMethod.1 "// ü\n".toList "/* é".toList .outline hbefore
  obtain ⟨-, hall⟩ := extract_shift indentedMethod.1 "// ü\n".toList "/* é".toList .full hbefore
  obtain ⟨hstart, hstop⟩ := hspans ⟨15, 44⟩ (by decide)
  refine ⟨hbefore, hspans, (hone ⟨15, 44⟩ hstart hstop).trans (by decide +kernel), (hall _ hspans).trans ?_⟩
  rw [extractSpans, orderSpans_eq_self (by decide)]
  decide +kernel

end Snippet

end Excerpt
