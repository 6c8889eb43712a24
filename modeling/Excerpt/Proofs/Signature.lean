import Excerpt.Proofs.JoinedLines
import Excerpt.Proofs.TidyLines

/-!
# Signatures

The outline of a text without braces is its signature and a stub. The signature is found line by line, but it is that
of the text as a whole: what stands before the first arrow, or all without the semicolons at the end (`signatureText`,
`flatMap_signature`). Both hold of any view of the lines that does not see blanks at their ends, such as `visibleLines`,
and so does what the lines of the whole outline are (`flatMap_lines_ofText`).
-/

namespace Excerpt

namespace Snippet
open Text (squeeze isBlank)
variable {t u line head : Text} {lines above below : List Text}

/-! ### Arrows -/

def arrow : Text := ['=', '>']

theorem beforeArrow?_cons {c : Char} (h : ¬ arrow <+: c :: t) :
    beforeArrow? (c :: t) = (beforeArrow? t).map (c :: ·) := by
  rw [beforeArrow?]
  rintro rest rfl hrest
  exact h ⟨rest, by rw [arrow, hrest]; rfl⟩

theorem beforeArrow?_eq_none_iff : beforeArrow? t = none ↔ ¬ arrow <:+: t := by
  fun_induction beforeArrow? t with
  | case1 rest => exact iff_of_false (by simp) (not_not.2 ⟨[], rest, rfl⟩)
  | case2 => exact iff_of_true rfl (by simp [arrow])
  | case3 c rest hc ih =>
    have hstart : ¬ arrow <+: c :: rest := by
      rintro ⟨u, hu⟩
      cases hu
      exact hc u rfl rfl
    rw [Option.map_eq_none_iff, ih, List.infix_cons_iff, not_or]
    exact ⟨fun h => ⟨hstart, h⟩, fun h => h.2⟩

/-- No arrow begins in a text without one, unless it ends in the text after it. -/
theorem beforeArrow?_append (h : ¬ arrow <:+: t) (hjoin : t.getLast? = some '=' → u.head? ≠ some '>') :
    beforeArrow? (t ++ u) = (beforeArrow? u).map (t ++ ·) := by
  induction t with
  | nil => exact Option.map_id'.symm
  | cons c t ih =>
    have hstart : ¬ arrow <+: c :: (t ++ u) := by
      rintro ⟨v, hv⟩
      cases t with
      | nil =>
        obtain ⟨rfl, hu⟩ := List.cons.inj hv
        exact hjoin rfl (by rw [← List.nil_append u, ← hu]; rfl)
      | cons d t =>
        cases hv
        exact h ⟨[], t, rfl⟩
    have hrest : t.getLast? = some '=' → u.head? ≠ some '>' := fun hl =>
      hjoin (by rw [List.getLast?_cons, hl]; rfl)
    rw [List.cons_append, beforeArrow?_cons hstart, ih (fun hi => h (List.infix_cons hi)) hrest, Option.map_map]
    rfl

theorem beforeArrow?_arrow (h : ¬ arrow <:+: head) (u : Text) : beforeArrow? (head ++ '=' :: '>' :: u) = some head := by
  rw [beforeArrow?_append h (by simp), beforeArrow?, Option.map_some, List.append_nil]

theorem exists_of_beforeArrow? (h : beforeArrow? t = some head) :
    ∃ u, t = head ++ '=' :: '>' :: u ∧ ¬ arrow <:+: head := by
  fun_induction beforeArrow? t generalizing head with
  | case1 rest =>
    cases h
    exact ⟨rest, rfl, by simp [arrow]⟩
  | case2 => cases h
  | case3 c rest hc ih =>
    obtain ⟨head, hrest, rfl⟩ := Option.map_eq_some_iff.1 h
    obtain ⟨u, rfl, hhead⟩ := ih hrest
    refine ⟨u, rfl, fun hi => ?_⟩
    rcases List.infix_cons_iff.1 hi with ⟨v, hv⟩ | hi
    · cases hv
      exact hc _ rfl rfl
    · exact hhead hi

/-! ### Visible lines -/

/-- The lines with text in them, trimmed. -/
def visibleLines (lines : List Text) : List Text := lines.flatMap (keepText Text.trim)

theorem skipsBlank_keepText : SkipsBlank (keepText Text.trim) := skipsBlank_strip fun _ h => h

theorem SkipsBlank.flatMap_visibleLines {α : Type} {f : Text → List α} (hf : SkipsBlank f) (lines : List Text) :
    (visibleLines lines).flatMap f = lines.flatMap f := by
  rw [visibleLines, List.flatMap_assoc]
  exact List.flatMap_congr fun line _ => hf.flatMap_keepText (hf.trim line)

/-! ### The lines of a signature -/

theorem signature_arrow (h : ∀ line ∈ above, ¬ arrow <:+: line) (hhead : ¬ arrow <:+: head) (rest : Text)
    (below : List Text) :
    signature (above ++ (head ++ '=' :: '>' :: rest) :: below) =
      above.map Text.trimEnd ++ keepText Text.trimEnd head := by
  induction above with
  | nil =>
    rw [List.nil_append, signature, beforeArrow?_arrow hhead]
    rfl
  | cons line above ih =>
    obtain ⟨hline, habove⟩ := List.forall_mem_cons.1 h
    rw [List.cons_append, signature, beforeArrow?_eq_none_iff.2 hline, ih habove]
    simp

theorem signature_concat (h : ∀ line ∈ above, ¬ arrow <:+: line) {last : Text} (hlast : ¬ arrow <:+: last) :
    signature (above ++ [last]) = above.map Text.trimEnd ++ [dropSemicolons last.trimEnd] := by
  induction above with
  | nil =>
    rw [List.nil_append, signature, beforeArrow?_eq_none_iff.2 hlast]
    rfl
  | cons line above ih =>
    obtain ⟨hline, habove⟩ := List.forall_mem_cons.1 h
    rw [List.cons_append, signature, beforeArrow?_eq_none_iff.2 hline, ih habove]
    simp

theorem exists_of_mem_signature (h : line ∈ signature lines) : ∃ whole ∈ lines, line <+: whole := by
  fun_induction signature lines with
  | case1 => cases h
  | case2 first rest head hhead _ => cases h
  | case3 first rest head hhead _ =>
    obtain ⟨u, hfirst, -⟩ := exists_of_beforeArrow? hhead
    refine ⟨first, List.mem_cons_self, ?_⟩
    rw [List.mem_singleton.1 h, hfirst]
    exact (Text.dropEndWhile_prefix_self _ head).trans (List.prefix_append _ _)
  | case4 first rest _ _ =>
    refine ⟨first, List.mem_cons_self, ?_⟩
    rw [List.mem_singleton.1 h]
    have htrim : Text.trimEnd first <+: first := Text.dropEndWhile_prefix_self _ first
    have hdrop : dropSemicolons (Text.trimEnd first) <+: Text.trimEnd first :=
      (Text.dropEndWhile_prefix_self _ _).trans (Text.dropEndWhile_prefix_self _ _)
    exact hdrop.trans htrim
  | case5 first rest _ _ ih =>
    rcases List.mem_cons.1 h with rfl | h
    · exact ⟨first, List.mem_cons_self, Text.dropEndWhile_prefix_self _ first⟩
    · obtain ⟨whole, hm, hline⟩ := ih h
      exact ⟨whole, List.mem_cons_of_mem first hm, hline⟩

theorem mem_of_mem_dropBlankEnds (h : line ∈ dropBlankEnds lines) : line ∈ lines :=
  (List.dropWhile_sublist _).subset (List.mem_reverse.1 ((List.dropWhile_sublist _).subset (List.mem_reverse.1 h)))

theorem dropBlankEnds_lines_of_allBlank (h : t.allBlank) : dropBlankEnds t.lines = [] := by
  have hline : ∀ line ∈ t.lines, Text.allBlank line := fun line hm =>
    List.all_eq_true.2 fun c hc => List.all_eq_true.1 h c ((Text.infix_of_mem_lines hm).subset hc)
  rw [dropBlankEnds, List.dropWhile_eq_nil_iff.2 hline]
  rfl

theorem trimEnd_concat {c : Char} (h : isBlank c = false) (t : Text) : Text.trimEnd (t ++ [c]) = t ++ [c] := by
  rw [Text.trimEnd, Text.dropEndWhile, List.reverse_append, List.reverse_singleton, List.singleton_append,
    List.dropWhile_cons_of_neg (by simp [h])]
  simp

theorem trimEnd_append_blank (h : Text.allBlank u) (t : Text) : Text.trimEnd (t ++ u) = t.trimEnd := by
  have hu : ∀ c ∈ u.reverse, isBlank c := fun c hc => List.all_eq_true.1 h c (List.mem_reverse.1 hc)
  rw [Text.trimEnd, Text.dropEndWhile, List.reverse_append, List.dropWhile_append_of_pos hu]
  rfl

theorem trimEnd_of_allBlank (h : t.allBlank) : t.trimEnd = [] := trimEnd_append_blank h []

theorem exists_trimEnd_concat (h : t.allBlank = false) : ∃ u c, t.trimEnd = u ++ [c] ∧ isBlank c = false := by
  cases hd : t.reverse.dropWhile isBlank with
  | nil =>
    have hall : Text.allBlank t.reverse := List.all_eq_true.2 (List.dropWhile_eq_nil_iff.1 hd)
    rw [Text.allBlank, List.all_reverse] at hall
    rw [Text.allBlank, hall] at h
    cases h
  | cons c rest =>
    have hc := List.head?_dropWhile_not isBlank t.reverse
    rw [hd] at hc
    exact ⟨rest.reverse, c, by rw [Text.trimEnd, Text.dropEndWhile, hd, List.reverse_cons], by simpa using hc⟩

theorem dropEndWhile_wholeLines (h : t.WholeLines) {p : Char → Bool} (hp : p '\n' = false) (u : Text) :
    Text.dropEndWhile p (t ++ u) = t ++ Text.dropEndWhile p u := by
  have ht : t.reverse.dropWhile p = t.reverse := by
    rcases h with rfl | h
    · rfl
    · obtain ⟨v, rfl⟩ := List.getLast?_eq_some_iff.1 h
      rw [List.reverse_append, List.reverse_singleton, List.singleton_append, List.dropWhile_cons_of_neg (by simp [hp])]
  rw [Text.dropEndWhile, List.reverse_append, List.dropWhile_append]
  split
  next hnil => rw [ht, Text.dropEndWhile, List.isEmpty_iff.1 hnil]; simp
  next => rw [List.reverse_append, List.reverse_reverse]; rfl

/-- Without the blank lines at its ends, a text ends in the last line of the text without the blanks at its end. -/
theorem exists_dropBlankEnds_lines (h : t.allBlank = false) :
    ∃ last : Text, last.trimEnd = lastLine t.trimEnd ∧
      dropBlankEnds t.lines = (wholePart t.trimEnd).lines.dropWhile Text.allBlank ++ [last] := by
  obtain ⟨u, c, hu, hc⟩ := exists_trimEnd_concat h
  have hne : c ≠ '\n' ∧ c ≠ '\r' := by
    constructor <;> rintro rfl <;> revert hc <;> decide
  obtain ⟨trail, ht, htrail⟩ := Text.exists_dropEndWhile isBlank t
  have hlast : lastLine t.trimEnd = lastLine u ++ [c] := by rw [hu, lastLine_concat hne.1]
  obtain ⟨rest, below, hrest, hline⟩ := lines_append_cons (not_mem_lastLine u) hne.1 hne.2 trail
  have hlines : t.lines = (wholePart t.trimEnd).lines ++ (lastLine t.trimEnd ++ rest) :: below := by
    have hsplit : t = wholePart t.trimEnd ++ (lastLine u ++ c :: trail) := by
      have hwhole : wholePart t.trimEnd ++ (lastLine u ++ [c]) = t.trimEnd := by
        rw [← hlast, wholePart_append_lastLine]
      calc t = t.trimEnd ++ trail := ht
        _ = wholePart t.trimEnd ++ (lastLine u ++ [c]) ++ trail := by rw [hwhole]
        _ = wholePart t.trimEnd ++ (lastLine u ++ c :: trail) := by simp
    conv_lhs => rw [hsplit]
    rw [(wholeLines_wholePart _).lines_append, hline, hlast]
    simp
  have hblank : Text.allBlank rest ∧ ∀ line ∈ below, Text.allBlank line := by
    have hnil := squeeze_of_lines_cons hc hrest
    rw [Text.squeeze_eq_nil_iff.2 (List.all_eq_true.2 htrail)] at hnil
    obtain ⟨hr, hb⟩ := List.append_eq_nil_iff.1 hnil.symm
    exact ⟨Text.squeeze_eq_nil_iff.1 hr,
      fun line hm => Text.squeeze_eq_nil_iff.1 (List.flatMap_eq_nil_iff.1 hb line hm)⟩
  have hvisible : Text.allBlank (lastLine t.trimEnd ++ rest) = false := by
    simp [hlast, Text.allBlank, hc]
  have hbelow : (below.reverse.dropWhile Text.allBlank).reverse = [] := by
    rw [List.reverse_eq_nil_iff, List.dropWhile_eq_nil_iff]
    exact fun line hm => hblank.2 line (List.mem_reverse.1 hm)
  refine ⟨lastLine t.trimEnd ++ rest, ?_, ?_⟩
  · rw [trimEnd_append_blank hblank.1, hlast, trimEnd_concat hc]
  · rw [hlines, dropBlankEnds_append_cons hvisible, hbelow]

section
variable {α : Type} {f : Text → List α}

theorem flatMap_signature_arrow (hf : SkipsBlank f) (hhead : ¬ arrow <:+: head) (u : Text) :
    (signature (dropBlankEnds (Text.lines (head ++ '=' :: '>' :: u)))).flatMap f = (Text.lines head).flatMap f := by
  have hlast : '\n' ∉ lastLine head ++ ['='] := by simp [not_mem_lastLine]
  obtain ⟨rest, below, -, hline⟩ := lines_append_cons hlast (c := '>') (by decide) (by decide) u
  rw [List.append_assoc, List.singleton_append, List.append_assoc, List.singleton_append] at hline
  have hlines : Text.lines (head ++ '=' :: '>' :: u) =
      (wholePart head).lines ++ (lastLine head ++ '=' :: '>' :: rest) :: below := by
    conv_lhs => rw [← wholePart_append_lastLine head, List.append_assoc]
    rw [(wholeLines_wholePart head).lines_append, hline]
  have hvisible : Text.allBlank (lastLine head ++ '=' :: '>' :: rest) = false := by
    simp [Text.allBlank, Text.isBlank]
  have habove : ∀ line ∈ (wholePart head).lines.dropWhile Text.allBlank, ¬ arrow <:+: line := by
    intro line hm hi
    have hin : line <:+: wholePart head := Text.infix_of_mem_lines ((List.dropWhile_sublist _).subset hm)
    exact hhead ((hi.trans hin).trans ⟨[], lastLine head, wholePart_append_lastLine head⟩)
  have hend : ¬ arrow <:+: lastLine head := fun hi =>
    hhead (hi.trans ⟨wholePart head, [], by rw [List.append_nil, wholePart_append_lastLine]⟩)
  rw [hlines, dropBlankEnds_append_cons hvisible, signature_arrow habove hend, List.flatMap_append,
    SkipsBlank.flatMap_map fun line _ => hf.trimEnd line, hf.flatMap_dropWhile, hf.flatMap_keepText (hf.trimEnd _),
    ← hf.flatMap_lines_eq]

theorem flatMap_signature_of_no_arrow (hf : SkipsBlank f) (h : ¬ arrow <:+: t) :
    (signature (dropBlankEnds t.lines)).flatMap f =
      (Text.lines (Text.dropEndWhile (· == ';') t.trimEnd)).flatMap f := by
  cases hblank : Text.allBlank t with
  | true => rw [dropBlankEnds_lines_of_allBlank hblank, trimEnd_of_allBlank hblank]; rfl
  | false =>
    obtain ⟨last, hend, hlines⟩ := exists_dropBlankEnds_lines hblank
    have hnone : ∀ line ∈ dropBlankEnds t.lines, ¬ arrow <:+: line := fun line hm hi =>
      h (hi.trans (Text.infix_of_mem_lines (mem_of_mem_dropBlankEnds hm)))
    rw [hlines] at hnone ⊢
    have habove := fun line hm => hnone line (List.mem_append_left _ hm)
    have hlast : ¬ arrow <:+: last := hnone last (by simp)
    have hcut : Text.dropEndWhile (· == ';') t.trimEnd =
        wholePart t.trimEnd ++ Text.dropEndWhile (· == ';') (lastLine t.trimEnd) := by
      conv_lhs => rw [← wholePart_append_lastLine t.trimEnd]
      exact dropEndWhile_wholeLines (wholeLines_wholePart _) (by decide) _
    have hline : '\n' ∉ Text.dropEndWhile (· == ';') (lastLine t.trimEnd) := fun hm =>
      not_mem_lastLine _ ((Text.dropEndWhile_prefix_self _ _).subset hm)
    rw [signature_concat habove hlast, hend, hcut, hf.flatMap_lines_append (wholeLines_wholePart _) hline,
      List.flatMap_append, SkipsBlank.flatMap_map fun line _ => hf.trimEnd line, hf.flatMap_dropWhile,
      List.flatMap_singleton, dropSemicolons, hf.trimEnd]

/-- The text up to its first arrow, or without the semicolons that end it. -/
def signatureText (t : Text) : Text := (beforeArrow? t).getD (Text.dropEndWhile (· == ';') t.trimEnd)

theorem flatMap_signature (hf : SkipsBlank f) (t : Text) :
    (signature (dropBlankEnds t.lines)).flatMap f = (signatureText t).lines.flatMap f := by
  cases h : beforeArrow? t with
  | none =>
    rw [flatMap_signature_of_no_arrow hf (beforeArrow?_eq_none_iff.1 h), signatureText, h]
    rfl
  | some head =>
    obtain ⟨u, rfl, hhead⟩ := exists_of_beforeArrow? h
    rw [flatMap_signature_arrow hf hhead, signatureText, h]
    rfl

/-! ### The outline of a text without braces -/

theorem outline_signature {first : Text} (h : braceKinds (first :: lines) = []) :
    outline (first :: lines) = signature (first :: lines) ++
      [['{'], "    ".toList ++ elision, ['}']].map (first.indentation ++ ·) := by
  have hnone : (codeBraces (first :: lines)).find? (·.isOpening) = none := by
    rw [List.map_eq_nil_iff.1 h]
    rfl
  rw [outline, hnone]
  simp

theorem not_mem_of_mem_outline {first : Text} (hb : braceKinds (first :: lines) = [])
    (h : ∀ line ∈ first :: lines, '\n' ∉ line) : ∀ line ∈ outline (first :: lines), '\n' ∉ line := by
  intro line hm
  rw [outline_signature hb] at hm
  rcases List.mem_append.1 hm with hm | hm
  · obtain ⟨whole, hwhole, hline⟩ := exists_of_mem_signature hm
    exact fun hc => h whole hwhole (hline.subset hc)
  · obtain ⟨ending, hending, rfl⟩ := List.mem_map.1 hm
    have hfirst : '\n' ∉ first.indentation := fun hc =>
      h first List.mem_cons_self ((List.takeWhile_prefix _).subset hc)
    have hstub : ∀ ending ∈ [['{'], "    ".toList ++ elision, ['}']], '\n' ∉ ending := by decide
    exact List.not_mem_append hfirst (hstub ending hending)

theorem flatMap_lines_ofText (hf : SkipsBlank f) (hblank : t.allBlank = false) (hb : braceKinds t.lines = []) :
    (Text.lines (ofText .outline t)).flatMap f =
      (signatureText t).lines.flatMap f ++ [['{'], elision, ['}']].flatMap f := by
  have hkinds : braceKinds (dropBlankEnds t.lines) = [] := by rw [braceKinds_congr (tidy_dropBlankEnds _), hb]
  have hline : ∀ line ∈ dropBlankEnds t.lines, '\n' ∉ line := fun line hm =>
    Text.not_mem_of_mem_lines (mem_of_mem_dropBlankEnds hm)
  rw [ofText, shape, ← flatMap_signature hf t]
  obtain ⟨first, rest, hlines⟩ : ∃ first rest, dropBlankEnds t.lines = first :: rest := by
    obtain ⟨last, -, hlines⟩ := exists_dropBlankEnds_lines hblank
    exact List.exists_cons_of_ne_nil (by simp [hlines])
  rw [hlines] at hkinds hline ⊢
  have hdedent : ∀ line ∈ dedent (outline (first :: rest)), '\n' ∉ line := by
    intro line hm hc
    obtain ⟨whole, hwhole, rfl⟩ := List.mem_map.1 hm
    exact not_mem_of_mem_outline hkinds hline whole hwhole (List.mem_of_mem_drop hc)
  have hindent : ∀ ending, f (first.indentation ++ ending) = f ending := fun ending =>
    hf.prepend _ ending (Text.allBlank_indentation first)
  have helision : f ("    ".toList ++ elision) = f elision := hf.prepend _ _ (by decide)
  rw [hf.flatMap_lines_joinWith hdedent, hf.flatMap_dedent, outline_signature hkinds, List.flatMap_append,
    SkipsBlank.flatMap_map fun ending _ => hindent ending]
  simp only [List.flatMap_cons, helision]

end

end Snippet

end Excerpt
