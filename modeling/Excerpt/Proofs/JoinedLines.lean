import Excerpt.Proofs.VisibleText

/-!
# Lines that were joined

A snippet is a list of lines that are joined by line feeds. Cutting it into lines again gives these lines back, except
for a carriage return at the end of a line (`lines_joinWith_concat`).
-/

namespace Excerpt

namespace Text
variable {line last t : Text} {ls : List Text}

theorem dropLineEnd_of_not_mem (h : '\n' ∉ line) : dropLineEnd line = line := by
  unfold dropLineEnd
  split
  next u hr => exact absurd (List.mem_reverse.1 (hr ▸ List.mem_cons_self)) h
  next u _ hr => exact absurd (List.mem_reverse.1 (hr ▸ List.mem_cons_self)) h
  next => rfl

theorem dropLineEnd_lineFeed (h : line.getLast? ≠ some '\r') : dropLineEnd (line ++ ['\n']) = line := by
  unfold dropLineEnd
  rw [List.reverse_append, List.reverse_singleton, List.singleton_append]
  split
  next u hr =>
    have hline : line = u.reverse ++ ['\r'] := by simpa using congrArg List.reverse (List.cons.inj hr).2
    exact absurd (by rw [hline, List.getLast?_concat]) h
  next u _ hr => simpa using (congrArg List.reverse (List.cons.inj hr).2).symm
  next hr => exact absurd rfl (hr _)

theorem lines_append_lineFeed (h : '\n' ∉ line) (t : Text) :
    lines (line ++ '\n' :: t) = dropLineEnd (line ++ ['\n']) :: lines t := by
  rw [lines, rawLines_append_lineFeed h]
  rfl

theorem lines_of_not_mem (hne : line ≠ []) (h : '\n' ∉ line) : lines line = [line] := by
  rw [lines, rawLines_of_not_mem hne h, List.map_singleton, dropLineEnd_of_not_mem h]

theorem joinWith_cons_concat (sep : Text) (line : Text) (ls : List Text) (last : Text) :
    joinWith sep (line :: (ls ++ [last])) = line ++ sep ++ joinWith sep (ls ++ [last]) := by
  rw [joinWith]
  simp

theorem lines_joinWith_concat (h : ∀ line ∈ ls, '\n' ∉ line) (hne : last ≠ []) (hlast : '\n' ∉ last) :
    lines (joinWith ['\n'] (ls ++ [last])) = ls.map (fun line => dropLineEnd (line ++ ['\n'])) ++ [last] := by
  induction ls with
  | nil => exact lines_of_not_mem hne hlast
  | cons line ls ih =>
    obtain ⟨hline, hls⟩ := List.forall_mem_cons.1 h
    rw [List.cons_append, joinWith_cons_concat, List.append_assoc, List.singleton_append, lines_append_lineFeed hline,
      ih hls]
    rfl

theorem infix_of_mem_rawLines (h : line ∈ rawLines t) : line <:+: t := by
  have hin := List.infix_of_mem_flatten h
  rwa [flatten_rawLines] at hin

theorem infix_of_mem_lines (h : line ∈ lines t) : line <:+: t := by
  obtain ⟨raw, hraw, rfl⟩ := List.mem_map.1 h
  obtain ⟨ending, hline, -⟩ := exists_dropLineEnd raw
  exact List.IsInfix.trans ⟨[], ending, hline.symm⟩ (infix_of_mem_rawLines hraw)

theorem WholeLines.isLine_of_mem (h : WholeLines t) (hm : line ∈ rawLines t) : IsLine line := by
  rcases (isLines_rawLines t).isLine_or hm with hline | hnot
  · exact hline
  · -- such a line is the last one, and the text ends with it
    obtain ⟨before, after, hsplit⟩ := List.append_of_mem hm
    have hlast : line.getLast? ≠ some '\n' := fun hl => hnot (List.mem_of_getLast? hl)
    have hafter : after = [] := (hsplit ▸ isLines_rawLines t).eq_nil_of_getLast? hlast
    have ht : t = before.flatten ++ line := by
      rw [← flatten_rawLines t, hsplit, hafter]
      simp
    rcases h with rfl | h
    · exact absurd hm List.not_mem_nil
    · rw [ht, List.getLast?_append_of_ne_nil _ (ne_nil_of_mem_rawLines hm)] at h
      exact absurd h hlast

/-- A line that ends with a carriage return had another one before its line feed. -/
theorem WholeLines.infix_of_getLast? (h : WholeLines t) (hl : line ∈ t.lines) (hr : line.getLast? = some '\r') :
    ['\r', '\r', '\n'] <:+: t := by
  obtain ⟨raw, hraw, rfl⟩ := List.mem_map.1 hl
  have hin : raw <:+: t := infix_of_mem_rawLines hraw
  obtain ⟨u, -, rfl⟩ := h.isLine_of_mem hraw
  by_cases hu : u.getLast? = some '\r'
  · obtain ⟨v, rfl⟩ := List.getLast?_eq_some_iff.1 hu
    have hv : dropLineEnd (v ++ ['\r'] ++ ['\n']) = v := by simp [dropLineEnd]
    obtain ⟨w, rfl⟩ := List.getLast?_eq_some_iff.1 (hv ▸ hr)
    exact List.IsInfix.trans ⟨w, [], by simp⟩ hin
  · rw [dropLineEnd_lineFeed hu] at hr
    exact absurd hr hu

end Text

namespace Snippet
variable {line : Text} {lines above below : List Text}

/-- Of the lines around one with text, only blank ones at the far ends are dropped. -/
theorem dropBlankEnds_append_cons (h : line.allBlank = false) (above below : List Text) :
    dropBlankEnds (above ++ line :: below) =
      above.dropWhile Text.allBlank ++ line :: (below.reverse.dropWhile Text.allBlank).reverse := by
  have hdrop : ∀ l r : List Text,
      (l ++ line :: r).dropWhile Text.allBlank = l.dropWhile Text.allBlank ++ line :: r := by
    intro l r
    rw [List.dropWhile_append]
    split
    next hl => rw [List.isEmpty_iff.1 hl, List.dropWhile_cons_of_neg (by simp [h]), List.nil_append]
    next => rfl
  rw [dropBlankEnds, hdrop, List.reverse_append, List.reverse_cons, List.append_assoc, List.singleton_append, hdrop]
  simp

theorem getLast?_dropBlankEnds (h : (dropBlankEnds lines).getLast? = some line) : line.allBlank = false := by
  have hnot := List.head?_dropWhile_not Text.allBlank (lines.dropWhile Text.allBlank).reverse
  rw [dropBlankEnds, List.getLast?_reverse] at h
  rw [h] at hnot
  simpa using hnot

theorem head?_dropBlankEnds (h : (dropBlankEnds lines).head? = some line) : line.allBlank = false := by
  have hnot := List.head?_dropWhile_not Text.allBlank lines
  have hstart : dropBlankEnds lines <+: lines.dropWhile Text.allBlank :=
    List.reverse_suffix.1 (by rw [dropBlankEnds, List.reverse_reverse]; exact List.dropWhile_suffix _)
  obtain ⟨rest, hrest⟩ := hstart
  rw [← hrest, List.head?_append, h] at hnot
  simpa using hnot

theorem dropBlankEnds_eq_self (hfirst : ∀ line, lines.head? = some line → line.allBlank = false)
    (hlast : ∀ line, lines.getLast? = some line → line.allBlank = false) : dropBlankEnds lines = lines := by
  have hkeep : ∀ l : List Text, (∀ line, l.head? = some line → line.allBlank = false) →
      l.dropWhile Text.allBlank = l := by
    intro l hl
    cases l with
    | nil => rfl
    | cons line l => exact List.dropWhile_cons_of_neg (by simp [hl line rfl])
  rw [dropBlankEnds, hkeep lines hfirst, hkeep lines.reverse, List.reverse_reverse]
  intro line h
  rw [List.head?_reverse] at h
  exact hlast line h

theorem getLast?_of_getLast?_drop {n : Nat} {c : Char} (h : (line.drop n).getLast? = some c) :
    line.getLast? = some c := by
  rw [List.getLast?_drop] at h
  split at h
  · cases h
  · exact h

end Snippet

end Excerpt
