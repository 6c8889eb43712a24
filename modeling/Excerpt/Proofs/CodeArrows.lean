import Excerpt.Proofs.Signature

/-!
# Arrows of the code

The signature of a member without braces ends at the first arrow of its code; `Lexeme.upToArrow` are the lexemes before
it. The outline cuts at the first arrow of the text instead. The two are the same arrow if no comment or literal before
it has one inside (`beforeArrow?_flatMap`), and only then does the outline keep the signature (`keepsSignature_iff`).
-/

namespace Excerpt

namespace Snippet

theorem escapedBody_of_all {quote : Char} {t : Text} (h : t.all fun c => c ∉ [quote, '\\', '\n']) :
    EscapedBody quote t := by
  induction t with
  | nil => exact .nil
  | cons c t ih =>
    obtain ⟨hc, ht⟩ := Bool.and_eq_true_iff.1 h
    have hc : c ≠ quote ∧ c ≠ '\\' ∧ c ≠ '\n' := by simpa using hc
    exact .plain hc.1 hc.2.1 hc.2.2 (ih ht)

namespace Lexeme
variable {e : Lexeme} {lexemes rest after : List Lexeme} {before t u v : Text}

/-- The lexemes before the first arrow of the code, if it has one. -/
def beforeArrow? : List Lexeme → Option (List Lexeme)
  | .code '=' :: .code '>' :: _ => some []
  | [] => none
  | e :: rest => (beforeArrow? rest).map (e :: ·)

/-- The lexemes before the first arrow of the code, or all of them. -/
def upToArrow (lexemes : List Lexeme) : List Lexeme := (beforeArrow? lexemes).getD lexemes

theorem upToArrow_prefix_self (lexemes : List Lexeme) : upToArrow lexemes <+: lexemes := by
  unfold upToArrow
  fun_induction beforeArrow? lexemes with
  | case1 rest => exact List.nil_prefix
  | case2 => exact List.prefix_rfl
  | case3 e rest _ ih =>
    cases h : beforeArrow? rest with
    | none => exact List.prefix_rfl
    | some head =>
      rw [h] at ih
      exact (List.prefix_cons_inj e).2 ih

/-! ### Where an arrow can stand -/

theorem eq_code_of_getLast? (h : e.text.getLast? = some '=') : e = .code '=' := by
  cases e with
  | code c => simpa [text] using h
  | _ => simp [text, List.getLast?_cons] at h

theorem eq_code_of_head? (hfit : e.Fits before u) (h : (e.text ++ t).head? = some '>') : e = .code '>' := by
  cases e with
  | code c => simpa [text] using h
  | string interpolated body => cases interpolated <;> simp [text] at h
  | verbatim opening body =>
    have hopening := hfit.1
    simp only [List.mem_cons, List.not_mem_nil, or_false] at hopening
    rcases hopening with rfl | rfl | rfl <;> simp [text] at h
  | _ => simp [text] at h

/-- An arrow of a sequence stands in one of its lexemes or is made of two characters of the code. -/
theorem beforeArrow?_flatMap (hs : Sequence before lexemes) (h : ∀ e ∈ upToArrow lexemes, ¬ arrow <:+: e.text) :
    Snippet.beforeArrow? (lexemes.flatMap text) = (beforeArrow? lexemes).map (·.flatMap text) := by
  unfold upToArrow at h
  fun_induction beforeArrow? lexemes generalizing before with
  | case1 rest => rfl
  | case2 => rfl
  | case3 e rest hcode ih =>
    obtain ⟨-, hrest⟩ := hs
    have hcons : ((beforeArrow? rest).map (e :: ·)).getD (e :: rest) = e :: (beforeArrow? rest).getD rest := by
      cases beforeArrow? rest <;> rfl
    rw [hcons] at h
    obtain ⟨he, hmore⟩ := List.forall_mem_cons.1 h
    have hjoin : e.text.getLast? = some '=' → (rest.flatMap text).head? ≠ some '>' := by
      intro hlast hhead
      cases rest with
      | nil => cases hhead
      | cons next rest => exact hcode rest (eq_code_of_getLast? hlast) (by rw [eq_code_of_head? hrest.1 hhead])
    rw [List.flatMap_cons, beforeArrow?_append he hjoin, ih hrest hmore, Option.map_map, Option.map_map]
    rfl

/-! ### Sequences that end early -/

theorem Fits.cut (h : e.Fits before (t ++ u)) (v : Text) : e.Fits before (t ++ '\n' :: v) := by
  cases e with
  | code c =>
    obtain ⟨hquote, hapostrophe, hslash⟩ := h
    refine ⟨hquote, hapostrophe, fun hc => ?_⟩
    cases t with
    | nil => simp
    | cons d t => simpa using hslash hc
  | verbatim opening body =>
    obtain ⟨hopening, hbody, hafter⟩ := h
    refine ⟨hopening, hbody, ?_⟩
    cases t with
    | nil => simp
    | cons d t => simpa using hafter
  | _ => exact h

/-- A sequence can be cut between two lexemes if a line feed follows. -/
theorem Sequence.cut (h : Sequence before (lexemes ++ rest)) (hafter : Sequence (before ++ lexemes.flatMap text) after)
    (hfeed : after.flatMap text = '\n' :: v) : Sequence before (lexemes ++ after) := by
  induction lexemes generalizing before with
  | nil => simpa using hafter
  | cons e lexemes ih =>
    have hfit : e.Fits before ((lexemes ++ rest).flatMap text) := h.1
    rw [List.flatMap_append] at hfit
    rw [List.flatMap_cons, ← List.append_assoc] at hafter
    have hcut : e.Fits before ((lexemes ++ after).flatMap text) := by
      rw [List.flatMap_append, hfeed]
      exact hfit.cut v
    exact ⟨hcut, ih h.2 hafter⟩

theorem sequence_code (h : t.all fun c => c ∉ ['"', '\'', '/']) (hrest : Sequence (before ++ t) rest) :
    Sequence before (t.map .code ++ rest) := by
  induction t generalizing before with
  | nil => simpa using hrest
  | cons c t ih =>
    obtain ⟨hc, ht⟩ := Bool.and_eq_true_iff.1 h
    have hc : c ≠ '"' ∧ c ≠ '\'' ∧ c ≠ '/' := by simpa using hc
    refine ⟨⟨hc.1, hc.2.1, fun hslash => absurd hslash hc.2.2⟩, ih ht ?_⟩
    rw [List.append_assoc]
    exact hrest

theorem braces_append (before : Text) (lexemes after : List Lexeme) :
    braces before (lexemes ++ after) = braces before lexemes ++ braces (before ++ lexemes.flatMap text) after := by
  induction lexemes generalizing before with
  | nil => simp [braces]
  | cons e lexemes ih =>
    rw [List.cons_append, braces, braces, ih, List.flatMap_cons, List.append_assoc, List.append_assoc]

/-- A stub after the line that it belongs to. -/
def stub : List Lexeme := [.code '\n', .code '{', .code '\n', .lineComment " ...".toList, .code '}']

theorem sequence_stub (before : Text) : Sequence before stub := by
  simp [stub, Sequence, Fits]

theorem braces_stub (before : Text) : (braces before stub).map (·.isOpening) = [true, false] := by
  simp [stub, braces, brace, braceAfter]

theorem braceKinds_lexemes (h : Sequence [] lexemes) :
    braceKinds (Text.lines (lexemes.flatMap text)) = (braces [] lexemes).map (·.isOpening) := by
  rw [braceKinds, codeBraces_lines, scanText_lexemes h]

theorem braceKinds_eq_nil (h : Sequence [] lexemes) (hb : braces [] lexemes = []) :
    braceKinds (Text.lines (lexemes.flatMap text)) = [] := by
  rw [braceKinds_lexemes h, hb, List.map_nil]

end Lexeme

open Lexeme (upToArrow)
variable {t u : Text} {lexemes : List Lexeme}

/-! ### What a signature should keep -/

/-- The text up to the first arrow of the code, or without the semicolons that end it. -/
def keptText (lexemes : List Lexeme) : Text :=
  match Lexeme.beforeArrow? lexemes with
  | some head => head.flatMap Lexeme.text
  | none => Text.dropEndWhile (· == ';') (Text.trimEnd (lexemes.flatMap Lexeme.text))

theorem exists_keptText (lexemes : List Lexeme) :
    ∃ trail, isIdle trail ∧ (upToArrow lexemes).flatMap Lexeme.text = keptText lexemes ++ trail := by
  unfold upToArrow keptText
  cases Lexeme.beforeArrow? lexemes with
  | some head => exact ⟨[], rfl, (List.append_nil _).symm⟩
  | none =>
    dsimp only [Option.getD_none]
    obtain ⟨blanks, ht, hblanks⟩ := Text.exists_dropEndWhile Text.isBlank (lexemes.flatMap Lexeme.text)
    obtain ⟨semicolons, hs, hsemicolons⟩ :=
      Text.exists_dropEndWhile (· == ';') (Text.trimEnd (lexemes.flatMap Lexeme.text))
    refine ⟨semicolons ++ blanks, List.all_eq_true.2 fun c hc => ?_, ?_⟩
    · rcases List.mem_append.1 hc with hc | hc
      · simpa [isPadding] using Or.inr (hsemicolons c hc)
      · simp [isPadding, hblanks c hc]
    · rw [← List.append_assoc, ← hs]
      exact ht

theorem tidy_lines_append_idle (h : isIdle u) (t : Text) : tidy (Text.lines (t ++ u)) = tidy t.lines := by
  induction u using List.reverseRecOn with
  | nil => rw [List.append_nil]
  | append_singleton u c ih =>
    rw [isIdle, List.all_append, Bool.and_eq_true_iff] at h
    rw [← ih h.1, ← List.append_assoc]
    by_cases hc : c = '\n'
    · rw [hc, tidy_lines_lineFeed]
      exact List.append_nil _
    · have hline : '\n' ∉ lastLine (t ++ u) ++ [c] := by simp [not_mem_lastLine, Ne.symm hc]
      conv_lhs => rw [← wholePart_append_lastLine (t ++ u), List.append_assoc]
      rw [tidy, skipsBlank_core.flatMap_lines_append (wholeLines_wholePart _) hline, core, strip_append_all h.2,
        tidy_lines_eq]
      rfl

theorem tidy_lines_keptText (lexemes : List Lexeme) :
    tidy (keptText lexemes).lines = tidy (Text.lines ((upToArrow lexemes).flatMap Lexeme.text)) := by
  obtain ⟨trail, htrail, hkept⟩ := exists_keptText lexemes
  rw [hkept, tidy_lines_append_idle htrail]

theorem count_keptText (lexemes : List Lexeme) :
    (keptText lexemes).count '>' = ((upToArrow lexemes).flatMap Lexeme.text).count '>' := by
  obtain ⟨trail, htrail, hkept⟩ := exists_keptText lexemes
  have hnone : '>' ∉ trail := fun hm => ne_of_isPadding (List.all_eq_true.1 htrail _ hm) (d := '>') (by decide) rfl
  rw [hkept, List.count_append, List.count_eq_zero.2 hnone, Nat.add_zero]

/-! ### Keeping it -/

/-- What is shown has the lines of the text that should be kept, and a stub that opens and closes in the code. -/
structure KeepsSignature (kept shown : Text) : Prop where
  lines : visibleLines shown.lines = visibleLines kept.lines ++ [['{'], elision, ['}']]
  braces : braceKinds shown.lines = [true, false]

theorem signatureText_flatMap (hs : Lexeme.Sequence [] lexemes)
    (h : ∀ e ∈ upToArrow lexemes, ¬ arrow <:+: e.text) :
    signatureText (lexemes.flatMap Lexeme.text) = keptText lexemes := by
  rw [signatureText, Lexeme.beforeArrow?_flatMap hs h, keptText]
  cases Lexeme.beforeArrow? lexemes <;> rfl

theorem visibleLines_outline (hblank : t.allBlank = false) (hb : braceKinds t.lines = []) :
    visibleLines (Text.lines (ofText .outline t)) =
      visibleLines (signatureText t).lines ++ [['{'], elision, ['}']] :=
  flatMap_lines_ofText skipsBlank_keepText hblank hb

theorem tidy_lines_stub (t : Text) :
    tidy (Text.lines (t ++ Lexeme.stub.flatMap Lexeme.text)) = tidy t.lines ++ tidy [['{'], elision, ['}']] := by
  have hstub : Lexeme.stub.flatMap Lexeme.text = '\n' :: "\x7b\n// ...\n\x7d".toList := rfl
  rw [hstub, tidy_lines_lineFeed]
  rfl

/-- The stub opens in the code, since the lexemes before it are complete. -/
theorem braceKinds_outline (hs : Lexeme.Sequence [] lexemes) (hb : Lexeme.braces [] lexemes = [])
    (hblank : Text.allBlank (lexemes.flatMap Lexeme.text) = false)
    (hkept : signatureText (lexemes.flatMap Lexeme.text) = keptText lexemes) :
    braceKinds (Text.lines (ofText .outline (lexemes.flatMap Lexeme.text))) = [true, false] := by
  obtain ⟨rest, hrest⟩ := Lexeme.upToArrow_prefix_self lexemes
  have hbraces : Lexeme.braces [] (upToArrow lexemes) = [] := by
    rw [← hrest, Lexeme.braces_append] at hb
    exact (List.append_eq_nil_iff.1 hb).1
  have hseq : Lexeme.Sequence [] (upToArrow lexemes ++ Lexeme.stub) :=
    Lexeme.Sequence.cut (hrest ▸ hs) (Lexeme.sequence_stub _) rfl
  have htidy : tidy (Text.lines (ofText .outline (lexemes.flatMap Lexeme.text))) =
      tidy (Text.lines ((upToArrow lexemes ++ Lexeme.stub).flatMap Lexeme.text)) := by
    rw [tidy, flatMap_lines_ofText skipsBlank_core hblank (Lexeme.braceKinds_eq_nil hs hb), hkept,
      List.flatMap_append, tidy_lines_stub, ← tidy_lines_keptText]
    rfl
  rw [braceKinds_congr htidy, Lexeme.braceKinds_lexemes hseq, Lexeme.braces_append, hbraces, List.nil_append,
    Lexeme.braces_stub]

theorem squeeze_eq_of_visibleLines (h : visibleLines t.lines = visibleLines u.lines) :
    Text.squeeze t = Text.squeeze u := by
  rw [← Text.flatMap_lines t, ← Text.flatMap_lines u, ← skipsBlank_squeeze.flatMap_visibleLines, h,
    skipsBlank_squeeze.flatMap_visibleLines]

theorem count_squeeze {c : Char} (h : Text.isBlank c = false) (t : Text) : (Text.squeeze t).count c = t.count c :=
  List.count_filter (by simp [h])

/-- A cut at an arrow inside a lexeme loses that arrow. -/
theorem not_infix_of_visibleLines
    (h : visibleLines (signatureText (lexemes.flatMap Lexeme.text)).lines = visibleLines (keptText lexemes).lines) :
    ∀ e ∈ upToArrow lexemes, ¬ arrow <:+: e.text := by
  intro e he harrow
  have hinside : arrow <:+: (upToArrow lexemes).flatMap Lexeme.text := by
    obtain ⟨before, after, hsplit⟩ := List.append_of_mem he
    exact harrow.trans ⟨before.flatMap Lexeme.text, after.flatMap Lexeme.text, by simp [hsplit]⟩
  obtain ⟨head, hhead⟩ := Option.ne_none_iff_exists'.1 (mt beforeArrow?_eq_none_iff.1 (not_not.2 hinside))
  obtain ⟨u, hkept, hno⟩ := exists_of_beforeArrow? hhead
  obtain ⟨rest, hrest⟩ := Lexeme.upToArrow_prefix_self lexemes
  have htext : lexemes.flatMap Lexeme.text = head ++ '=' :: '>' :: (u ++ rest.flatMap Lexeme.text) := by
    rw [← hrest, List.flatMap_append, hkept]
    simp
  rw [htext, signatureText, beforeArrow?_arrow hno, Option.getD_some] at h
  have hsame : head.count '>' = (keptText lexemes).count '>' := by
    rw [← count_squeeze (by decide) head, squeeze_eq_of_visibleLines h, count_squeeze (by decide)]
  rw [count_keptText, hkept, List.count_append] at hsame
  simp at hsame

/-- The outline of a text of complete lexemes without braces keeps its signature exactly if no comment or literal before
the first arrow of the code has an arrow in it. A blank text has no outline. -/
theorem keepsSignature_iff {source : Text} {span : Span} (hs : Lexeme.Sequence [] lexemes)
    (hb : Lexeme.braces [] lexemes = []) (ht : spanText source span = lexemes.flatMap Lexeme.text) :
    ((spanText source span).allBlank = true → extractSpan source .outline span = []) ∧
      ((spanText source span).allBlank = false →
        (KeepsSignature (keptText lexemes) (extractSpan source .outline span) ↔
          ∀ e ∈ upToArrow lexemes, ¬ arrow <:+: e.text)) := by
  rw [extractSpan, ht]
  refine ⟨fun hblank => ?_, fun hblank => ?_⟩
  · rw [ofText, dropBlankEnds_lines_of_allBlank hblank]
    rfl
  · have hlines := visibleLines_outline hblank (Lexeme.braceKinds_eq_nil hs hb)
    constructor
    · intro h
      rw [h.lines] at hlines
      exact not_infix_of_visibleLines (List.append_cancel_right hlines).symm
    · intro h
      have hkept := signatureText_flatMap hs h
      exact ⟨by rw [hlines, hkept], braceKinds_outline hs hb hblank hkept⟩

/-- Braces in literals, and arrows in the body only. -/
def arrowMember : List Lexeme :=
  "[A(".toList.map .code ++ .string false "\x7b=".toList :: ("> 0)] ".toList.map .code ++
    .lineComment " >".toList :: ("int B\n  => ".toList.map .code ++ .string true "=>\x7d".toList :: [.code ';']))

theorem sequence_arrowMember : Lexeme.Sequence [] arrowMember := by
  have hattribute : EscapedBody '"' "\x7b=".toList := escapedBody_of_all (by decide)
  have hcomment : '\n' ∉ " >".toList := by decide
  have hbody : EscapedBody '"' "=>\x7d".toList := escapedBody_of_all (by decide)
  refine Lexeme.sequence_code (by decide) ⟨⟨hattribute, by decide, by decide⟩, ?_⟩
  refine Lexeme.sequence_code (by decide) ⟨hcomment, ?_⟩
  refine Lexeme.sequence_code (by decide) ⟨⟨hbody, by decide, by decide⟩, ?_⟩
  simp [Lexeme.Sequence, Lexeme.Fits]

theorem keepsSignature_arrowMember :
    Lexeme.Sequence [] arrowMember ∧ Lexeme.braces [] arrowMember = [] ∧
      spanText (arrowMember.flatMap Lexeme.text) ⟨0, 40⟩ = arrowMember.flatMap Lexeme.text ∧
      keptText arrowMember = "[A(\"\x7b=\"> 0)] // >\nint B\n  ".toList ∧
      KeepsSignature (keptText arrowMember) (extractSpan (arrowMember.flatMap Lexeme.text) .outline ⟨0, 40⟩) := by
  have hs := sequence_arrowMember
  have hb : Lexeme.braces [] arrowMember = [] := by decide +kernel
  have ht : spanText (arrowMember.flatMap Lexeme.text) ⟨0, 40⟩ = arrowMember.flatMap Lexeme.text := by decide +kernel
  have hnone : ∀ e ∈ upToArrow arrowMember, ¬ arrow <:+: e.text := by decide +kernel
  exact ⟨hs, hb, ht, by decide +kernel, ((keepsSignature_iff hs hb ht).2 (by decide +kernel)).2 hnone⟩

/-- An arrow in the argument of an attribute. -/
def displayMember : List Lexeme :=
  "[Display(".toList.map .code ++ .string false "a => b".toList :: ")]\npublic int Count;".toList.map .code

theorem sequence_displayMember : Lexeme.Sequence [] displayMember := by
  have hattribute : EscapedBody '"' "a => b".toList := escapedBody_of_all (by decide)
  refine Lexeme.sequence_code (by decide) ⟨⟨hattribute, by decide, by decide⟩, ?_⟩
  rw [← List.append_nil (List.map _ _)]
  exact Lexeme.sequence_code (by decide) trivial

/-- The outline ends at the arrow in the attribute. -/
theorem not_keepsSignature_displayMember :
    Lexeme.Sequence [] displayMember ∧ Lexeme.braces [] displayMember = [] ∧
      spanText (displayMember.flatMap Lexeme.text) ⟨0, 37⟩ = displayMember.flatMap Lexeme.text ∧
      extractSpan (displayMember.flatMap Lexeme.text) .outline ⟨0, 37⟩ =
        "[Display(\"a\n\x7b\n    // ...\n\x7d".toList ∧
      ¬ KeepsSignature (keptText displayMember) (extractSpan (displayMember.flatMap Lexeme.text) .outline ⟨0, 37⟩) := by
  refine ⟨sequence_displayMember, by decide +kernel, by decide +kernel, by decide +kernel, fun h => ?_⟩
  exact absurd h.lines (by decide +kernel)

end Snippet

end Excerpt
