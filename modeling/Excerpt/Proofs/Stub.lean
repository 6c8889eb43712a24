import Excerpt.Proofs.JoinedLines
import Excerpt.Proofs.TidyLines

/-!
# Stubs of braced members

The outline of a text with an opening brace is its head and a stub. `OpensAt` says that the first opening brace of the
code stands at the end of some lines; it is a condition on the kinds of braces of what stands up to there, so neither
what follows nor padding matters. `ofText_outline` reads the outline off the text before the brace. The outline is
joined from lines without common indentation, in which the same brace opens first again, so its own outline is itself
(`ofText_outline_outline`).
-/

namespace Excerpt

namespace Snippet
open Text (squeeze)
variable {p t u line : Text} {above below : List Text}

/-! ### Scanning in parts -/

theorem scanLine_append (row : Nat) (before : Text) (column : Nat) (context : Context) (t u : Text) :
    scanLine row before column context (t ++ u) =
      ((scanLine row before column context t).1 ++
          (scanLine row (t.reverse ++ before) (column + t.byteLength) (scanLine row before column context t).2 u).1,
        (scanLine row (t.reverse ++ before) (column + t.byteLength) (scanLine row before column context t).2 u).2) := by
  induction t generalizing before column context with
  | nil => rfl
  | cons c t ih =>
    rw [List.cons_append, scanLine, scanLine, ih, List.reverse_cons, List.append_assoc, Text.byteLength_cons,
      Nat.add_assoc]
    dsimp only
    split <;> rfl

theorem exists_scanLines_append (above : List Text) (row : Nat) (context : Context) :
    ∃ context', ∀ below,
      scanLines row context (above ++ below) =
        scanLines row context above ++ scanLines (row + above.length) context' below := by
  induction above generalizing row context with
  | nil => exact ⟨context, fun _ => rfl⟩
  | cons line above ih =>
    obtain ⟨context', h⟩ := ih (row + 1) (scanLine row [] 0 context.atLineStart line).2
    refine ⟨context', fun below => ?_⟩
    rw [List.cons_append, scanLines, scanLines]
    dsimp only
    rw [h below, List.append_assoc, List.length_cons, Nat.add_assoc, Nat.add_comm 1]

theorem codeBraces_prefix_append (above : List Text) (line rest : Text) (below : List Text) :
    codeBraces (above ++ [line]) <+: codeBraces (above ++ (line ++ rest) :: below) := by
  obtain ⟨context, h⟩ := exists_scanLines_append above 0 .code
  rw [codeBraces, codeBraces, h, h, scanLines, scanLines, scanLine_append]
  simp [scanLines]

theorem codeBraces_opening (above : List Text) (line : Text) :
    codeBraces (above ++ [line ++ ['{']]) = codeBraces (above ++ [line]) ∨
      codeBraces (above ++ [line ++ ['{']]) =
        codeBraces (above ++ [line]) ++ [⟨above.length, line.byteLength, true⟩] := by
  obtain ⟨context, h⟩ := exists_scanLines_append above 0 .code
  rw [codeBraces, codeBraces, h, h, scanLines, scanLines, scanLine_append, Nat.zero_add]
  cases hcode : (scanLine above.length [] 0 context.atLineStart line).2.isCode with
  | false =>
    left
    simp [scanLines, scanLine, hcode]
  | true =>
    right
    simp [scanLines, scanLine, hcode]

/-! ### The first opening brace -/

/-- After the lines above and the line, an opening brace is the first one of the code. -/
structure OpensAt (above : List Text) (line : Text) : Prop where
  first : true ∉ braceKinds (above ++ [line])
  opens : braceKinds (above ++ [line ++ ['{']]) = braceKinds (above ++ [line]) ++ [true]

namespace OpensAt
variable {above' : List Text} {line' : Text}

theorem of_tidy (h : OpensAt above line) (hline : tidy (above' ++ [line']) = tidy (above ++ [line]))
    (hopens : tidy (above' ++ [line' ++ ['{']]) = tidy (above ++ [line ++ ['{']])) : OpensAt above' line' := by
  refine ⟨?_, ?_⟩
  · rw [braceKinds_congr hline]
    exact h.first
  · rw [braceKinds_congr hline, braceKinds_congr hopens]
    exact h.opens

theorem dropWhile (h : OpensAt above line) : OpensAt (above.dropWhile Text.allBlank) line :=
  h.of_tidy (by simp only [tidy_append, tidy_dropWhile]) (by simp only [tidy_append, tidy_dropWhile])

theorem firstOpening? (h : OpensAt above line) (rest : Text) (below : List Text) :
    firstOpening? (above ++ (line ++ '{' :: rest) :: below) = some ⟨above.length, line.byteLength, true⟩ := by
  have hopens := h.opens
  unfold braceKinds at hopens
  rcases codeBraces_opening above line with heq | heq
  · rw [heq] at hopens
    simp at hopens
  · have hnone : (codeBraces (above ++ [line])).find? (·.isOpening) = none := by
      rw [List.find?_eq_none]
      intro brace hm hopening
      exact h.first (List.mem_map.2 ⟨brace, hm, hopening⟩)
    have hfind : (codeBraces (above ++ [line ++ ['{']])).find? (·.isOpening) =
        some ⟨above.length, line.byteLength, true⟩ := by
      rw [heq, List.find?_append, hnone]
      rfl
    have hstart := codeBraces_prefix_append above (line ++ ['{']) rest below
    rw [List.append_assoc, List.singleton_append] at hstart
    exact hstart.find?_eq_some hfind

end OpensAt

/-- The context after a text. -/
def Context.through (before : Text) (context : Context) : Text → Context
  | [] => context
  | c :: rest => through (before ++ [c]) (context.read before c) rest

theorem bracePlaces_append (before : Text) (context : Context) (t u : Text) :
    bracePlaces before context (t ++ u) =
      bracePlaces before context t ++ bracePlaces (before ++ t) (context.through before t) u := by
  induction t generalizing before context with
  | nil => simp [bracePlaces, Context.through]
  | cons c t ih =>
    rw [List.cons_append, bracePlaces, bracePlaces, ih, List.append_assoc, List.append_assoc, List.singleton_append]
    rfl

theorem braceKinds_lines (t : Text) : braceKinds t.lines = (bracePlaces [] .code t).map (·.2) := by
  rw [braceKinds, codeBraces_eq_map, List.map_map]
  rfl

theorem tidy_wholePart (t : Text) : tidy ((wholePart t).lines ++ [lastLine t]) = tidy t.lines := by
  rw [tidy_append, tidy_singleton, ← tidy_lines_eq]

theorem length_of_mem_bracePlaces {before : Text} {context : Context} {place : Text × Bool}
    (h : place ∈ bracePlaces before context t) :
    before.length ≤ place.1.length ∧ place.1.length < before.length + t.length := by
  obtain ⟨v, w, ht, hplace⟩ := exists_of_mem_bracePlaces h
  rw [hplace, ht, List.length_append, List.length_append, List.length_cons]
  omega

/-- A brace that is found first is the only opening one up to its place. -/
theorem bracePlaces_of_find? (h : (bracePlaces [] .code (p ++ '{' :: u)).find? (·.2) = some (p, true)) :
    (∀ place ∈ bracePlaces [] .code p, place.2 = false) ∧
      bracePlaces [] .code (p ++ ['{']) = bracePlaces [] .code p ++ [(p, true)] := by
  rw [bracePlaces_append, List.find?_append] at h
  have hnone : (bracePlaces [] .code p).find? (·.2) = none := by
    cases hfound : (bracePlaces [] .code p).find? (·.2) with
    | none => rfl
    | some found =>
      rw [hfound] at h
      cases h
      have hlen := (length_of_mem_bracePlaces (List.mem_of_find?_eq_some hfound)).2
      simp at hlen
  have hcode : (Context.through [] .code p).isCode = true := by
    rw [hnone, Option.none_or, List.nil_append, bracePlaces] at h
    by_contra hcode
    rw [if_neg fun hc => hcode hc.1, List.nil_append] at h
    have hlen : (p ++ ['{']).length ≤ p.length := (length_of_mem_bracePlaces (List.mem_of_find?_eq_some h)).1
    rw [List.length_append, List.length_singleton] at hlen
    omega
  refine ⟨fun place hm => ?_, ?_⟩
  · simpa using List.find?_eq_none.1 hnone place hm
  · rw [bracePlaces_append]
    simp [bracePlaces, hcode]

/-- A brace that is found first opens after the lines of the text before it. -/
theorem opensAt_of_find? (h : (bracePlaces [] .code (p ++ '{' :: u)).find? (·.2) = some (p, true)) :
    OpensAt (wholePart p).lines (lastLine p) := by
  obtain ⟨hbefore, hopens⟩ := bracePlaces_of_find? h
  have hline : tidy ((wholePart p).lines ++ [lastLine p ++ ['{']]) = tidy (Text.lines (p ++ ['{'])) := by
    rw [tidy_append, tidy_singleton]
    conv_rhs =>
      rw [← wholePart_append_lastLine p, List.append_assoc, (wholeLines_wholePart p).lines_append, tidy_append]
    rw [tidy_lines_of_not_mem (t := lastLine p ++ ['{']) (by simp [not_mem_lastLine p])]
  refine ⟨?_, ?_⟩
  · rw [braceKinds_congr (tidy_wholePart p), braceKinds_lines, List.mem_map]
    rintro ⟨place, hm, hopening⟩
    rw [hbefore place hm] at hopening
    cases hopening
  · rw [braceKinds_congr (tidy_wholePart p), braceKinds_congr hline, braceKinds_lines, braceKinds_lines, hopens]
    simp

/-! ### Head and stub -/

/-- The lines of a head and a stub for the body after it. -/
def stub (head : List Text) : List Text :=
  head ++ [(head.headD []).indentation ++ "    ".toList ++ elision, (head.headD []).indentation ++ ['}']]

/-- The lines of a text up to the brace that stands after `p`, without blank ones in front. -/
def headLines (p : Text) : List Text := (wholePart p).lines.dropWhile Text.allBlank ++ [lastLine p ++ ['{']]

theorem indentation_append_opening (line rest : Text) : Text.indentation (line ++ '{' :: rest) = line.indentation := by
  have hopening : Text.isBlank '{' = false := by decide
  unfold Text.indentation
  induction line with
  | nil => simp [hopening]
  | cons c line ih => rw [List.cons_append, List.takeWhile_cons, List.takeWhile_cons, ih]

theorem allBlank_append_opening (line rest : Text) : Text.allBlank (line ++ '{' :: rest) = false := by
  have hopening : Text.isBlank '{' = false := by decide
  simp [Text.allBlank, hopening]

theorem OpensAt.outline (h : OpensAt above line) (rest : Text) (below : List Text) :
    outline (above ++ (line ++ '{' :: rest) :: below) = stub (above ++ [line ++ ['{']]) := by
  have hfind : (codeBraces (above ++ (line ++ '{' :: rest) :: below)).find? (·.isOpening) =
      some ⟨above.length, line.byteLength, true⟩ := h.firstOpening? rest below
  have htake : Text.takeBytes (line.byteLength + 1) (line ++ '{' :: rest) = line ++ ['{'] := by
    simpa [utf8Size_opening] using Text.takeBytes_append (line ++ ['{']) rest
  obtain ⟨first, others, hlines⟩ : ∃ first others, above ++ (line ++ '{' :: rest) :: below = first :: others :=
    List.exists_cons_of_ne_nil (by simp)
  have hindent : first.indentation = ((above ++ [line ++ ['{']]).headD []).indentation := by
    cases above with
    | nil =>
      cases hlines
      exact (indentation_append_opening line rest).trans (indentation_append_opening line []).symm
    | cons line above =>
      cases hlines
      rfl
  rw [stub, ← hindent]
  rw [hlines] at hfind ⊢
  rw [Snippet.outline, hfind, ← hlines]
  simp [htake]

theorem ofText_outline (h : OpensAt (wholePart p).lines (lastLine p)) (u : Text) :
    ofText .outline (p ++ '{' :: u) = Text.joinWith ['\n'] (dedent (stub (headLines p))) := by
  obtain ⟨rest, below, -, hline⟩ :=
    lines_append_cons (c := '{') (not_mem_lastLine p) (by decide) (by decide) u
  have hlines : Text.lines (p ++ '{' :: u) = (wholePart p).lines ++ (lastLine p ++ '{' :: rest) :: below := by
    conv_lhs => rw [← wholePart_append_lastLine p, List.append_assoc, (wholeLines_wholePart p).lines_append, hline]
  rw [ofText, hlines, dropBlankEnds_append_cons (allBlank_append_opening _ _), shape, h.dropWhile.outline]
  rfl

theorem flatMap_stub (p : Text) :
    (stub (headLines p)).flatMap squeeze = squeeze (p ++ ['{']) ++ (squeeze elision ++ ['}']) := by
  have hhead : (headLines p).flatMap squeeze = squeeze (p ++ ['{']) := by
    rw [headLines, List.flatMap_append, skipsBlank_squeeze.flatMap_dropWhile, Text.flatMap_lines,
      List.flatMap_singleton, ← Text.squeeze_append, ← List.append_assoc, wholePart_append_lastLine]
  have hblank := Text.allBlank_indentation ((headLines p).headD [])
  have helision : squeeze ("    ".toList ++ elision) = squeeze elision := Text.squeeze_blank_append (by decide) _
  rw [stub, List.flatMap_append, hhead, List.flatMap_cons, List.flatMap_singleton, List.append_assoc,
    Text.squeeze_blank_append hblank, Text.squeeze_blank_append hblank, helision]
  rfl

/-! ### The lines of the outline -/

section
variable {first : Text} {more lines : List Text} {n : Nat}

theorem stub_cons (first : Text) (more : List Text) :
    stub (first :: more) =
      first :: (more ++ [first.indentation ++ "    ".toList ++ elision]) ++ [first.indentation ++ ['}']] := by
  simp [stub]

/-- Removing common indentation makes a stub of the head without it. -/
theorem exists_dedent_stub (h : first.allBlank = false) (more : List Text) :
    ∃ n, n ≤ first.indentation.length ∧ (∀ line ∈ first :: more, Text.allBlank (line.take n)) ∧
      dedent (stub (first :: more)) = stub ((first :: more).map (·.drop n)) := by
  have hmem : ∀ line ∈ first :: more, line ∈ stub (first :: more) := fun line hm => List.mem_append_left _ hm
  have hle : (commonIndent? (stub (first :: more))).getD 0 ≤ first.indentation.length :=
    commonIndent?_le (hmem first List.mem_cons_self) h
  refine ⟨_, hle, fun line hm => allBlank_take_commonIndent (hmem line hm), ?_⟩
  unfold dedent
  generalize (commonIndent? (stub (first :: more))).getD 0 = n at hle ⊢
  rw [List.map_cons, stub_cons, stub_cons, indentation_drop hle]
  simp [List.drop_append_of_le_length hle]

theorem mem_headLines (h : line ∈ headLines p) : line ∈ (wholePart p).lines ∨ line = lastLine p ++ ['{'] := by
  rcases List.mem_append.1 h with h | h
  · exact .inl ((List.dropWhile_suffix _).subset h)
  · exact .inr (List.mem_singleton.1 h)

theorem not_mem_of_mem_headLines (h : line ∈ headLines p) : '\n' ∉ line := by
  rcases mem_headLines h with h | rfl
  · exact Text.not_mem_of_mem_lines h
  · simp [not_mem_lastLine p]

/-- The first line of a head is not blank. -/
theorem exists_headLines (p : Text) : ∃ first more, headLines p = first :: more ∧ first.allBlank = false := by
  unfold headLines
  cases h : (wholePart p).lines.dropWhile Text.allBlank with
  | nil => exact ⟨_, [], rfl, allBlank_append_opening _ _⟩
  | cons first more =>
    refine ⟨first, more ++ [lastLine p ++ ['{']], rfl, ?_⟩
    have hhead := List.head?_dropWhile_not Text.allBlank (wholePart p).lines
    rw [h] at hhead
    simpa using hhead

theorem indentation_append (h : line.allBlank = false) (t : Text) :
    Text.indentation (line ++ t) = line.indentation := by
  unfold Text.indentation
  rw [List.takeWhile_append, if_neg]
  intro hlen
  have hall : line.takeWhile Text.isBlank = line := (List.takeWhile_prefix _).eq_of_length hlen
  have hblank : line.allBlank := hall ▸ Text.allBlank_indentation line
  rw [hblank] at h
  cases h

/-- A carriage return at the end of a line with text does not belong to its indentation. -/
theorem indentation_dropLineEnd (h : line.allBlank = false) :
    Text.indentation (Text.dropLineEnd (line ++ ['\n'])) = line.indentation := by
  by_cases hr : line.getLast? = some '\r'
  · obtain ⟨t, rfl⟩ := List.getLast?_eq_some_iff.1 hr
    have ht : Text.allBlank t = false := by
      have hreturn : Text.isBlank '\r' = true := by decide
      simpa [Text.allBlank, hreturn] using h
    have hdrop : Text.dropLineEnd (t ++ ['\r'] ++ ['\n']) = t := by simp [Text.dropLineEnd]
    rw [hdrop, indentation_append ht]
  · rw [Text.dropLineEnd_lineFeed hr]

theorem lines_joinWith_stub (hline : ∀ line ∈ first :: more, '\n' ∉ line) :
    Text.lines (Text.joinWith ['\n'] (stub (first :: more))) =
      (first :: more).map (fun line => Text.dropLineEnd (line ++ ['\n'])) ++
        [first.indentation ++ "    ".toList ++ elision, first.indentation ++ ['}']] := by
  have hindent : '\n' ∉ first.indentation := fun hm =>
    hline first List.mem_cons_self ((List.takeWhile_prefix _).subset hm)
  have helision : '\n' ∉ first.indentation ++ "    ".toList ++ elision := by
    have hrest : '\n' ∉ "    ".toList ++ elision := by decide
    rw [List.append_assoc, List.mem_append, not_or]
    exact ⟨hindent, hrest⟩
  have hlast : (first.indentation ++ "    ".toList ++ elision).getLast? ≠ some '\r' := by
    rw [List.getLast?_append_of_ne_nil _ (by decide)]
    decide
  have hsplit : stub (first :: more) =
      ((first :: more) ++ [first.indentation ++ "    ".toList ++ elision]) ++ [first.indentation ++ ['}']] := by
    simp [stub]
  rw [hsplit, Text.lines_joinWith_concat]
  · rw [List.map_append, List.map_singleton, Text.dropLineEnd_lineFeed hlast, List.append_assoc, List.singleton_append]
  · intro line hm
    rcases List.mem_append.1 hm with hm | hm
    · exact hline line hm
    · rw [List.mem_singleton.1 hm]
      exact helision
  · simp
  · simp [hindent]

theorem lines_joinWith_stub_eq (hline : ∀ line ∈ first :: more, '\n' ∉ line)
    (hreturn : ∀ line ∈ first :: more, line.getLast? ≠ some '\r') :
    Text.lines (Text.joinWith ['\n'] (stub (first :: more))) = stub (first :: more) := by
  have hmap : (first :: more).map (fun line => Text.dropLineEnd (line ++ ['\n'])) = first :: more := by
    conv_rhs => rw [← List.map_id (first :: more)]
    exact List.map_congr_left fun line hm => Text.dropLineEnd_lineFeed (hreturn line hm)
  rw [lines_joinWith_stub hline, hmap]
  rfl

theorem dropBlankEnds_stub (h : first.allBlank = false) (more : List Text) :
    dropBlankEnds (stub (first :: more)) = stub (first :: more) := by
  have hclosing : Text.allBlank (first.indentation ++ ['}']) = false := by
    have hbrace : Text.isBlank '}' = false := by decide
    simp [Text.allBlank, hbrace]
  rw [stub_cons]
  refine dropBlankEnds_eq_self (fun line hline => ?_) fun line hline => ?_
  · cases hline
    exact h
  · rw [List.getLast?_concat] at hline
    cases hline
    exact hclosing

theorem length_le_of_allBlank_take (h : Text.allBlank ((line ++ ['{']).take n)) : n ≤ line.length := by
  by_contra hn
  rw [List.take_of_length_le (by simp; omega), allBlank_append_opening] at h
  cases h

theorem OpensAt.drop (h : OpensAt above line)
    (hblank : ∀ l ∈ above ++ [line ++ ['{']], Text.allBlank (l.take n)) :
    OpensAt (above.map (·.drop n)) (line.drop n) := by
  have hcore : ∀ l : Text, Text.allBlank (l.take n) → core (l.drop n) = core l := by
    intro l hl
    conv_rhs => rw [← List.take_append_drop n l, skipsBlank_core.prepend _ _ hl]
  have habove : tidy (above.map (·.drop n)) = tidy above :=
    SkipsBlank.flatMap_map fun l hm => hcore l (hblank l (List.mem_append_left _ hm))
  have hlast : Text.allBlank ((line ++ ['{']).take n) := hblank _ (by simp)
  have hlen : n ≤ line.length := length_le_of_allBlank_take hlast
  have hdrop : line.drop n ++ ['{'] = (line ++ ['{']).drop n := (List.drop_append_of_le_length hlen).symm
  rw [List.take_append_of_le_length hlen] at hlast
  refine h.of_tidy ?_ ?_
  · rw [tidy_append, tidy_append, tidy_singleton, tidy_singleton, habove, hcore line hlast]
  · rw [tidy_append, tidy_append, tidy_singleton, tidy_singleton, habove, hdrop, hcore _ (hblank _ (by simp))]

theorem getLast?_of_mem_headLines (hreturn : ¬ ['\r', '\r', '\n'] <:+: p) (h : line ∈ headLines p) :
    line.getLast? ≠ some '\r' := by
  rcases mem_headLines h with h | rfl
  · intro hlast
    refine hreturn (((wholeLines_wholePart p).infix_of_getLast? h hlast).trans ?_)
    exact ⟨[], lastLine p, by rw [List.nil_append, wholePart_append_lastLine]⟩
  · simp

theorem not_mem_of_mem_map_drop (h : headLines p = lines) (n : Nat) : ∀ line ∈ lines.map (·.drop n), '\n' ∉ line := by
  intro shown hm hc
  obtain ⟨line, hm', rfl⟩ := List.mem_map.1 hm
  exact not_mem_of_mem_headLines (h ▸ hm') (List.mem_of_mem_drop hc)

/-- The outline of an outline is the outline. -/
theorem ofText_outline_outline (h : OpensAt (wholePart p).lines (lastLine p))
    (hreturn : ¬ ['\r', '\r', '\n'] <:+: p) (u : Text) :
    ofText .outline (ofText .outline (p ++ '{' :: u)) = ofText .outline (p ++ '{' :: u) := by
  obtain ⟨first, more, hhead, hfirst⟩ := exists_headLines p
  obtain ⟨n, hn, hblank, hdedent⟩ := exists_dedent_stub hfirst more
  have hmem : ∀ line, line ∈ first :: more ↔ line ∈ headLines p := fun line => by rw [hhead]
  have hblank' : ∀ line ∈ headLines p, Text.allBlank (line.take n) := fun line hm => hblank line ((hmem line).2 hm)
  have hfirst' : Text.allBlank (first.drop n) = false := by rw [allBlank_drop hn, hfirst]
  have hline := not_mem_of_mem_map_drop hhead n
  have hlast : ∀ line ∈ (first :: more).map (·.drop n), line.getLast? ≠ some '\r' := by
    intro shown hm hc
    obtain ⟨line, hm', rfl⟩ := List.mem_map.1 hm
    exact getLast?_of_mem_headLines hreturn ((hmem line).1 hm') (getLast?_of_getLast?_drop hc)
  -- the lines of the outline are those that were joined, and they are the outline of themselves
  have houtline : outline (stub ((first :: more).map (·.drop n))) = stub ((first :: more).map (·.drop n)) := by
    have hlen : n ≤ (lastLine p).length := length_le_of_allBlank_take (hblank' _ (by simp [headLines]))
    have hmap : (first :: more).map (·.drop n) =
        ((wholePart p).lines.dropWhile Text.allBlank).map (·.drop n) ++ [(lastLine p).drop n ++ ['{']] := by
      rw [← hhead, headLines, List.map_append, List.map_singleton, List.drop_append_of_le_length hlen]
    rw [hmap]
    conv_lhs => rw [stub, List.append_assoc, List.singleton_append, (h.dropWhile.drop hblank').outline [] _]
  rw [ofText_outline h, hhead, hdedent, ofText, List.map_cons, lines_joinWith_stub_eq hline hlast,
    dropBlankEnds_stub hfirst', shape, ← List.map_cons, houtline, ← hdedent, dedent_dedent]

end

theorem exists_lines_outline (h : OpensAt (wholePart p).lines (lastLine p)) (u : Text) :
    ∃ (first : Text) (rest : List Text), (ofText .outline (p ++ '{' :: u)).lines =
      first :: rest ++ [first.indentation ++ "    ".toList ++ elision, first.indentation ++ ['}']] := by
  obtain ⟨first, more, hhead, hfirst⟩ := exists_headLines p
  obtain ⟨n, hn, -, hdedent⟩ := exists_dedent_stub hfirst more
  have hfirst' : Text.allBlank (first.drop n) = false := by rw [allBlank_drop hn, hfirst]
  have hline : ∀ line ∈ first.drop n :: more.map (·.drop n), '\n' ∉ line := not_mem_of_mem_map_drop hhead n
  rw [ofText_outline h, hhead, hdedent, List.map_cons, lines_joinWith_stub hline, List.map_cons,
    ← indentation_dropLineEnd hfirst']
  exact ⟨_, _, rfl⟩

/-! ### Spans -/

theorem spanText_whole (t : Text) : spanText t ⟨0, Text.byteLength t⟩ = t := by
  have hdrop : Text.dropBytes 0 t = t := Text.dropBytes_append [] t
  have htake : Text.takeBytes (Text.byteLength t) t = t := by simpa using Text.takeBytes_append t []
  have hend : Text.isBoundary t.byteLength t = true := by simpa using Text.isBoundary_byteLength_append t []
  simp [spanText, hend, Text.isBoundary, Text.takeBytes_zero, lastLine, Text.slice, hdrop, htake]

theorem extractSpan_whole (t : Text) (mode : Mode) : extractSpan t mode ⟨0, Text.byteLength t⟩ = ofText mode t := by
  rw [extractSpan, spanText_whole]

/-- The text up to a brace that was found in its lines, and the brace. -/
def upTo (brace : Brace) (t : Text) : Text := Text.takeBytes (brace.offset t + 1) t

theorem exists_of_firstOpening? {opening : Brace} (h : firstOpening? t.lines = some opening) :
    ∃ p u, t = p ++ '{' :: u ∧ opening.offset t = p.byteLength ∧ upTo opening t = p ++ ['{'] ∧
      OpensAt (wholePart p).lines (lastLine p) := by
  rw [firstOpening?_lines, Option.map_eq_some_iff] at h
  obtain ⟨⟨p, o⟩, hfind, rfl⟩ := h
  obtain rfl : o = true := List.find?_some hfind
  obtain ⟨p', u, ht, hp⟩ := exists_of_mem_bracePlaces (List.mem_of_find?_eq_some hfind)
  obtain rfl : p = p' := hp
  have ht' : t = p ++ '{' :: u := ht
  subst ht'
  have hoffset := offset_braceAt p true ('{' :: u)
  refine ⟨p, u, rfl, hoffset, ?_, opensAt_of_find? hfind⟩
  rw [upTo, hoffset]
  simpa [utf8Size_opening] using Text.takeBytes_append (p ++ ['{']) u

/-- The outline of a span whose text has an opening brace in its code shows the text up to the first one and nothing
after it. Its last two lines are the stub, which is indented as the first line is. It is the same for all texts that
agree up to that brace, and, if no line end has two carriage returns, it is its own outline. -/
theorem extractSpan_outline {source : Text} {span : Span} {opening : Brace}
    (h : firstOpening? (spanText source span).lines = some opening) :
    squeeze (extractSpan source .outline span) =
        squeeze (upTo opening (spanText source span)) ++ (squeeze elision ++ ['}']) ∧
      (∃ (first : Text) (rest : List Text), (extractSpan source .outline span).lines =
        first :: rest ++ [first.indentation ++ "    ".toList ++ elision, first.indentation ++ ['}']]) ∧
      (∀ source' span',
        Text.takeBytes (opening.offset (spanText source span) + 1) (spanText source' span') =
            upTo opening (spanText source span) →
          extractSpan source' .outline span' = extractSpan source .outline span) ∧
      (¬ ['\r', '\r', '\n'] <:+: spanText source span →
        extractSpan (extractSpan source .outline span) .outline ⟨0, (extractSpan source .outline span).byteLength⟩ =
          extractSpan source .outline span) := by
  obtain ⟨p, u, ht, hoffset, hupTo, hopens⟩ := exists_of_firstOpening? h
  have houtline : extractSpan source .outline span = ofText .outline (p ++ '{' :: u) := by rw [extractSpan, ht]
  refine ⟨?_, ?_, ?_, ?_⟩
  · rw [houtline, ofText_outline hopens, Text.squeeze_joinWith (by decide), skipsBlank_squeeze.flatMap_dedent,
      flatMap_stub, hupTo]
  · rw [houtline]
    exact exists_lines_outline hopens u
  · intro source' span' hagree
    rw [hoffset, hupTo] at hagree
    have ht' : spanText source' span' = p ++ '{' :: Text.dropBytes (p.byteLength + 1) (spanText source' span') := by
      conv_lhs => rw [← Text.takeBytes_append_dropBytes (p.byteLength + 1) (spanText source' span'), hagree]
      simp
    rw [houtline, extractSpan, ht', ofText_outline hopens, ofText_outline hopens]
  · intro hreturn
    rw [extractSpan_whole, houtline]
    exact ofText_outline_outline hopens (fun hp => hreturn (ht ▸ hp.trans (List.prefix_append _ _).isInfix)) u

/-- A member with braces in a string that goes on in a second line, which has the least indentation. -/
def attributed : Text := "class A\n\n\n    [B(@\"x\x7b\n  \x7d\")]\r\n    int C() \x7b D(); \x7d \x7d".toList

theorem extractSpan_outline_attributed :
    firstOpening? (spanText attributed ⟨8, 100⟩).lines = some ⟨4, 12, true⟩ ∧
      extractSpan attributed .outline ⟨8, 100⟩ =
        "  [B(@\"x\x7b\n\x7d\")]\n  int C() \x7b\n      // ...\n  \x7d".toList ∧
      extractSpan "\n\n    [B(@\"x\x7b\n  \x7d\")]\r\n    int C() \x7b \"E".toList .outline ⟨0, 100⟩ =
        extractSpan attributed .outline ⟨8, 100⟩ ∧
      extractSpan (extractSpan attributed .outline ⟨8, 100⟩) .outline
          ⟨0, (extractSpan attributed .outline ⟨8, 100⟩).byteLength⟩ =
        extractSpan attributed .outline ⟨8, 100⟩ := by
  have hopening : firstOpening? (spanText attributed ⟨8, 100⟩).lines = some ⟨4, 12, true⟩ := by decide +kernel
  obtain ⟨-, -, hagree, hagain⟩ := extractSpan_outline hopening
  exact ⟨hopening, by decide +kernel, hagree _ ⟨0, 100⟩ (by decide +kernel), hagain (by decide +kernel)⟩

end Snippet

end Excerpt
