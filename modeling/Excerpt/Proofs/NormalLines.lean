import Excerpt.Proofs.Signature
import Excerpt.Proofs.Stub

/-!
# The normal form of a snippet

A snippet of a whole span begins and ends with a line that has text in it, and some line of it is not indented: its
lines are `Normal`. They are when the lines are joined, since the blank ones at the ends were dropped before the
indentation was removed (`normal_dedent_dropBlankEnds`). Cutting the snippet into lines again takes at most a carriage
return off a line, which leaves them so (`Normal.map_dropLineEnd`). Where no line ends with a carriage return the same
lines come back, and there is nothing left to drop or to remove (`ofText_full_full`).
-/

namespace Excerpt

namespace Snippet
open Text (isBlank)
variable {t line last : Text} {lines above : List Text}

/-- The first and the last line are not blank, and some line begins with a character that is not blank. -/
structure Normal (lines : List Text) : Prop where
  first : ∀ line, lines.head? = some line → line.allBlank = false
  last : ∀ line, lines.getLast? = some line → line.allBlank = false
  flush : ∃ line ∈ lines, ∃ c rest, line = c :: rest ∧ isBlank c = false

/-! ### Removing indentation -/

theorem normal_dedent_dropBlankEnds (h : dropBlankEnds lines ≠ []) : Normal (dedent (dropBlankEnds lines)) where
  first := by
    intro shown hshown
    rw [dedent, List.head?_map, Option.map_eq_some_iff] at hshown
    obtain ⟨line, hline, rfl⟩ := hshown
    rw [allBlank_drop_commonIndent (List.mem_of_head? hline)]
    exact head?_dropBlankEnds hline
  last := by
    intro shown hshown
    rw [dedent, List.getLast?_map, Option.map_eq_some_iff] at hshown
    obtain ⟨line, hline, rfl⟩ := hshown
    rw [allBlank_drop_commonIndent (List.mem_of_getLast? hline)]
    exact getLast?_dropBlankEnds hline
  flush := by
    obtain ⟨first, rest, hlines⟩ := List.exists_cons_of_ne_nil h
    have hhead : (dropBlankEnds lines).head? = some first := by rw [hlines]; rfl
    obtain ⟨n, hn⟩ := exists_commonIndent? (List.mem_of_head? hhead) (head?_dropBlankEnds hhead)
    exact exists_flush_of_commonIndent? (commonIndent?_dedent hn)

/-! ### Cutting the snippet into lines -/

theorem exists_carriageReturn (line : Text) :
    ∃ ending, line = Text.dropLineEnd (line ++ ['\n']) ++ ending ∧ ending.allBlank := by
  by_cases hr : line.getLast? = some '\r'
  · obtain ⟨t, rfl⟩ := List.getLast?_eq_some_iff.1 hr
    exact ⟨['\r'], by simp [Text.dropLineEnd], by decide⟩
  · exact ⟨[], by rw [Text.dropLineEnd_lineFeed hr, List.append_nil], rfl⟩

theorem allBlank_carriageReturn (line : Text) : Text.allBlank (Text.dropLineEnd (line ++ ['\n'])) = line.allBlank := by
  obtain ⟨ending, hline, hending⟩ := exists_carriageReturn line
  have hall : ending.all isBlank = true := hending
  conv_rhs => rw [hline, Text.allBlank, List.all_append, hall, Bool.and_true]
  rfl

theorem Normal.map_dropLineEnd (h : Normal (above ++ [last])) :
    Normal (above.map (fun line => Text.dropLineEnd (line ++ ['\n'])) ++ [last]) where
  first := by
    intro shown hshown
    cases above with
    | nil => exact h.first shown hshown
    | cons line above =>
      cases hshown
      rw [allBlank_carriageReturn]
      exact h.first line rfl
  last := by
    intro shown hshown
    rw [List.getLast?_concat] at hshown
    exact h.last shown (by rw [List.getLast?_concat, hshown])
  flush := by
    obtain ⟨line, hm, c, rest, hline, hc⟩ := h.flush
    rcases List.mem_append.1 hm with hm | hm
    · refine ⟨_, List.mem_append_left _ (List.mem_map_of_mem hm), c, ?_⟩
      -- the first character is not blank, so it is no part of the line end
      obtain ⟨ending, hend, hending⟩ := exists_carriageReturn line
      cases hdrop : Text.dropLineEnd (line ++ ['\n']) with
      | nil =>
        rw [hdrop, List.nil_append, hline] at hend
        rw [← hend, Text.allBlank, List.all_cons, hc] at hending
        cases hending
      | cons d shown =>
        rw [hdrop, hline] at hend
        obtain ⟨rfl, -⟩ := List.cons.inj hend
        exact ⟨shown, rfl, hc⟩
    · exact ⟨line, List.mem_append_right _ hm, c, rest, hline, hc⟩

/-- What is joined for a text that is not blank: lines that a line feed ended, and a last one. -/
theorem exists_dedent_lines (h : t.allBlank = false) :
    ∃ above last, dedent (dropBlankEnds t.lines) = above ++ [last] ∧ last ≠ [] ∧
      (∀ line ∈ above ++ [last], '\n' ∉ line) ∧
      (¬ ['\r', '\r', '\n'] <:+: t → ∀ line ∈ above, line.getLast? ≠ some '\r') := by
  obtain ⟨last, -, hlines⟩ := exists_dropBlankEnds_lines h
  have hmem : last ∈ dropBlankEnds t.lines := by simp [hlines]
  have hlast : last.allBlank = false := getLast?_dropBlankEnds (by rw [hlines, List.getLast?_concat])
  have hdedent : dedent (dropBlankEnds t.lines) =
      (dropBlankEnds t.lines).map (·.drop ((commonIndent? (dropBlankEnds t.lines)).getD 0)) := rfl
  have hblank := allBlank_drop_commonIndent hmem
  generalize (commonIndent? (dropBlankEnds t.lines)).getD 0 = n at hdedent hblank
  refine ⟨((wholePart t.trimEnd).lines.dropWhile Text.allBlank).map (·.drop n), last.drop n, ?_, ?_, ?_, ?_⟩
  · rw [hdedent, hlines, List.map_append, List.map_singleton]
  · intro hnil
    rw [hnil, hlast] at hblank
    cases hblank
  · intro shown hm hc
    have hm : shown ∈ (dropBlankEnds t.lines).map (·.drop n) := by
      rwa [hlines, List.map_append, List.map_singleton]
    obtain ⟨line, hline, rfl⟩ := List.mem_map.1 hm
    exact Text.not_mem_of_mem_lines (mem_of_mem_dropBlankEnds hline) (List.mem_of_mem_drop hc)
  · intro hreturn shown hm hc
    obtain ⟨line, hline, rfl⟩ := List.mem_map.1 hm
    have hline : line ∈ (wholePart t.trimEnd).lines := (List.dropWhile_sublist _).subset hline
    have hpart := (wholeLines_wholePart _).infix_of_getLast? hline (getLast?_of_getLast?_drop hc)
    have hwhole : wholePart t.trimEnd <+: t.trimEnd := ⟨_, wholePart_append_lastLine _⟩
    have htrim : t.trimEnd <+: t := Text.dropEndWhile_prefix_self _ t
    exact hreturn (hpart.trans (hwhole.trans htrim).isInfix)

theorem lines_ofText_full (h : t.allBlank = false) :
    Normal (ofText .full t).lines ∧
      (¬ ['\r', '\r', '\n'] <:+: t → (ofText .full t).lines = dedent (dropBlankEnds t.lines)) := by
  obtain ⟨above, last, hdedent, hne, hfeed, hreturn⟩ := exists_dedent_lines h
  have hlines : (ofText .full t).lines = above.map (fun line => Text.dropLineEnd (line ++ ['\n'])) ++ [last] := by
    rw [ofText, shape, hdedent]
    exact Text.lines_joinWith_concat (fun line hm => hfeed line (List.mem_append_left _ hm)) hne (hfeed last (by simp))
  have hnormal : Normal (above ++ [last]) := by
    rw [← hdedent]
    refine normal_dedent_dropBlankEnds fun hnil => ?_
    rw [hnil] at hdedent
    simp [dedent] at hdedent
  rw [hlines, hdedent]
  refine ⟨hnormal.map_dropLineEnd, fun hno => ?_⟩
  congr 1
  conv_rhs => rw [← List.map_id above]
  exact List.map_congr_left fun line hm => Text.dropLineEnd_lineFeed (hreturn hno line hm)

theorem ofText_full_of_allBlank (h : t.allBlank) : ofText .full t = [] := by
  rw [ofText, dropBlankEnds_lines_of_allBlank h]
  rfl

theorem ofText_full_full (hreturn : ¬ ['\r', '\r', '\n'] <:+: t) :
    ofText .full (ofText .full t) = ofText .full t := by
  cases hblank : t.allBlank with
  | true => rw [ofText_full_of_allBlank hblank, ofText_full_of_allBlank rfl]
  | false =>
    obtain ⟨hnormal, hlines⟩ := lines_ofText_full hblank
    have hends := dropBlankEnds_eq_self hnormal.first hnormal.last
    rw [ofText, hends, hlines hreturn, shape, dedent_dedent]
    rfl

/-! ### Spans -/

variable {source : Text} {span : Span}

theorem spanText_infix_self (source : Text) (span : Span) : spanText source span <:+: source := by
  unfold spanText
  dsimp only
  generalize min span.stop source.byteLength = stop
  generalize min span.start stop = start
  have hbody : Text.slice start stop source <+: Text.dropBytes start source :=
    ⟨_, Text.takeBytes_append_dropBytes _ _⟩
  obtain ⟨after, hafter⟩ := hbody
  have hsource := Text.takeBytes_append_dropBytes start source
  split
  · split
    · refine ⟨wholePart (Text.takeBytes start source), after, ?_⟩
      conv_rhs => rw [← hsource, ← hafter, ← wholePart_append_lastLine (Text.takeBytes start source)]
      simp
    · refine ⟨Text.takeBytes start source, after, ?_⟩
      conv_rhs => rw [← hsource, ← hafter]
      simp
  · exact List.nil_infix

/-- A snippet of a whole span is empty, or its first and last lines are not blank and some line of it begins with a
character that is not blank. If no line end of the source has two carriage returns, the snippet is its own snippet. -/
theorem extractSpan_full_normal (source : Text) (span : Span) :
    (extractSpan source .full span = [] ∨ Normal (extractSpan source .full span).lines) ∧
      (¬ ['\r', '\r', '\n'] <:+: source →
        extractSpan (extractSpan source .full span) .full ⟨0, (extractSpan source .full span).byteLength⟩ =
          extractSpan source .full span) := by
  refine ⟨?_, fun hreturn => ?_⟩
  · rw [extractSpan]
    cases hblank : (spanText source span).allBlank with
    | true => exact .inl (ofText_full_of_allBlank hblank)
    | false => exact .inr (lines_ofText_full hblank).1
  · rw [extractSpan_whole]
    exact ofText_full_full fun h => hreturn (h.trans (spanText_infix_self source span))

/-- Indented lines with blank ones around them, and one between them that is shorter than their indentation. -/
def spacedSource : Text := "\x7b\n\n   a(\r\n \n     b)\r\n\n\x7d".toList

theorem extractSpan_full_spacedSource :
    ¬ ['\r', '\r', '\n'] <:+: spacedSource ∧ extractSpan spacedSource .full ⟨2, 21⟩ = "a(\n\n  b)".toList ∧
      Normal (extractSpan spacedSource .full ⟨2, 21⟩).lines ∧
      extractSpan (extractSpan spacedSource .full ⟨2, 21⟩) .full
          ⟨0, (extractSpan spacedSource .full ⟨2, 21⟩).byteLength⟩ =
        extractSpan spacedSource .full ⟨2, 21⟩ := by
  have hreturn : ¬ ['\r', '\r', '\n'] <:+: spacedSource := by decide +kernel
  have htext : extractSpan spacedSource .full ⟨2, 21⟩ = "a(\n\n  b)".toList := by decide +kernel
  obtain ⟨hnormal, hagain⟩ := extractSpan_full_normal spacedSource ⟨2, 21⟩
  exact ⟨hreturn, htext, hnormal.resolve_left (by rw [htext]; decide), hagain hreturn⟩

end Snippet

end Excerpt
