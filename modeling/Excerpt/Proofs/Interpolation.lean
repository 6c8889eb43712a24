import Excerpt.Proofs.CodeArrows

/-!
# Interpolated strings with holes

A hole of an interpolated string holds code, and that code can have string literals of its own. The scanner knows no
holes: for it the first quote of such a literal closes the interpolated string, and the second one opens a string again.
So what stands between them is read as code. If it reads as complete lexemes, these are skipped exactly if no brace is
among them (`scanText_elements`). If it does not, the rest of the line may be read as a comment or as a literal, and the
braces there are lost. In any case the braces of the code and no others are found exactly if of each element, in the
context in which the scanner comes to it, just the brace is found that it is (`scanText_eq_braces_iff`).
-/

namespace Excerpt

namespace Snippet

/-- A piece of the code in a hole. -/
inductive Piece where
  | code (t : Text)
  /-- A string literal; the content is what stands between its quotes. -/
  | literal (content : Text)
deriving DecidableEq, Repr, Inhabited

/-- A part of the body of an interpolated string. -/
inductive Part where
  | plain (t : Text)
  | hole (pieces : List Piece)
deriving DecidableEq, Repr, Inhabited

/-- A lexeme, or an interpolated string whose holes can have literals in them. -/
inductive Element where
  | lexeme (e : Lexeme)
  | interpolated (parts : List Part)
deriving DecidableEq, Repr, Inhabited

namespace Piece

def text : Piece → Text
  | code t => t
  | literal content => '"' :: content ++ ['"']

/-- Code in a hole has no quote outside of its literals. -/
def Complete : Piece → Prop
  | code t => EscapedBody '"' t
  | literal _ => True

def contents : Piece → List Text
  | code _ => []
  | literal content => [content]

end Piece

namespace Part

def text : Part → Text
  | plain t => t
  | hole pieces => '{' :: pieces.flatMap Piece.text ++ ['}']

def Complete : Part → Prop
  | plain t => EscapedBody '"' t
  | hole pieces => ∀ p ∈ pieces, p.Complete

def contents : Part → List Text
  | plain _ => []
  | hole pieces => pieces.flatMap Piece.contents

end Part

namespace Element

/-- An interpolated string is one lexeme, whatever its holes hold. -/
def toLexeme : Element → Lexeme
  | lexeme e => e
  | interpolated parts => .string true (parts.flatMap Part.text)

def text (e : Element) : Text := e.toLexeme.text

/-- What stands between the quotes of the literals in holes. -/
def contents : Element → List Text
  | lexeme _ => []
  | interpolated parts => parts.flatMap Part.contents

/-- The element is complete and keeps apart from the text before it and the text after it. -/
def Fits (before after : Text) : Element → Prop
  | lexeme e => e.Fits before after
  | interpolated parts => (∀ p ∈ parts, p.Complete) ∧ ¬ ['@'] <:+ before

/-- Every element of the list fits, the first one after the text `before`. -/
def Sequence (before : Text) : List Element → Prop
  | [] => True
  | e :: rest => e.Fits before (rest.flatMap text) ∧ Sequence (before ++ e.text) rest

end Element

/-! ### Elements one by one -/

/-- The context after a text that stands after `before`. -/
def Context.readAll (before : Text) (context : Context) : Text → Context
  | [] => context
  | c :: rest => readAll (before ++ [c]) (context.read before c) rest

/-- Of every element, in the context in which the scanner comes to it, just the brace is found that it is. -/
def Element.Faithful (before : Text) (context : Context) : List Element → Prop
  | [] => True
  | e :: rest =>
    scanText before context e.text = e.toLexeme.brace before ∧
      Faithful (before ++ e.text) (context.readAll before e.text) rest

instance Element.decidableFaithful (before : Text) (context : Context) :
    (elements : List Element) → Decidable (Element.Faithful before context elements)
  | [] => .isTrue trivial
  | e :: rest =>
    have := decidableFaithful (before ++ e.text) (context.readAll before e.text) rest
    inferInstanceAs (Decidable (_ ∧ _))

theorem scanText_append (before : Text) (context : Context) (t u : Text) :
    scanText before context (t ++ u) =
      scanText before context t ++ scanText (before ++ t) (context.readAll before t) u := by
  induction t generalizing before context with
  | nil => rw [List.append_nil]; rfl
  | cons c t ih =>
    rw [List.cons_append, scanText, scanText, ih, Context.readAll, List.append_assoc, List.append_assoc]
    rfl

/-- Two braces of a text that are found at one place stand at one place. -/
theorem eq_of_braceAt_eq {p q u v : Text} {a b : Bool} (ht : p ++ u = q ++ v) (h : braceAt p a = braceAt q b) :
    p = q := by
  have hoffset : (braceAt p a).offset (p ++ u) = (braceAt q b).offset (q ++ v) := by rw [h, ht]
  rw [offset_braceAt, offset_braceAt] at hoffset
  rw [← Text.takeBytes_append p u, ← Text.takeBytes_append q v, hoffset, ht]

/-- The brace is a character of the text that stands after `before`. -/
def Brace.StandsIn (b : Brace) (before t : Text) : Prop :=
  ∃ u v, t = u ++ braceChar b.isOpening :: v ∧ b = braceAt (before ++ u) b.isOpening

section
variable {b : Brace} {before t u : Text} {context : Context}

theorem Brace.StandsIn.not_after (h : b.StandsIn before t) : ¬ b.StandsIn (before ++ t) u := by
  rintro ⟨p', v', rfl, hb'⟩
  obtain ⟨p, v, rfl, hb⟩ := h
  have hplace := eq_of_braceAt_eq (u := braceChar b.isOpening :: v ++ (p' ++ braceChar b.isOpening :: v'))
    (v := braceChar b.isOpening :: v') (by simp) (hb.symm.trans hb')
  have hlength := congrArg List.length hplace
  simp at hlength

theorem standsIn_of_mem_scanText (h : b ∈ scanText before context t) : b.StandsIn before t := by
  rw [scanText_eq_map] at h
  obtain ⟨place, hplace, rfl⟩ := List.mem_map.1 h
  obtain ⟨u, v, ht, hu⟩ := exists_of_mem_bracePlaces hplace
  exact ⟨u, v, ht, by rw [← hu]; rfl⟩

theorem standsIn_of_mem_brace {e : Lexeme} (h : b ∈ e.brace before) : b.StandsIn before e.text := by
  cases e with
  | code c =>
    rw [Lexeme.brace, braceAfter] at h
    split at h
    next hc =>
      rw [List.mem_singleton.1 h]
      refine ⟨[], [], ?_, by rw [List.append_nil]; rfl⟩
      rcases hc with rfl | rfl <;> rfl
    next => cases h
  | _ => cases h

theorem standsIn_of_mem_braces {lexemes : List Lexeme} (h : b ∈ Lexeme.braces before lexemes) :
    b.StandsIn before (lexemes.flatMap Lexeme.text) := by
  induction lexemes generalizing before with
  | nil => cases h
  | cons e rest ih =>
    rcases List.mem_append.1 h with h | h
    · obtain ⟨u, v, ht, hb⟩ := standsIn_of_mem_brace h
      exact ⟨u, v ++ rest.flatMap Lexeme.text, by rw [List.flatMap_cons, ht]; simp, hb⟩
    · obtain ⟨u, v, ht, hb⟩ := ih h
      exact ⟨e.text ++ u, v, by rw [List.flatMap_cons, ht, List.append_assoc], by rwa [← List.append_assoc]⟩

end

theorem append_eq_append_iff_of_disjoint {α : Type} {l₁ l₂ r₁ r₂ : List α} (h : ∀ a ∈ r₁, a ∉ l₂)
    (h' : ∀ a ∈ l₁, a ∉ r₂) : l₁ ++ l₂ = r₁ ++ r₂ ↔ l₁ = r₁ ∧ l₂ = r₂ := by
  refine ⟨fun heq => ?_, fun ⟨h₁, h₂⟩ => by rw [h₁, h₂]⟩
  rcases List.append_eq_append_iff.1 heq with ⟨m, hr, hl⟩ | ⟨m, hl, hr⟩
  · have hnil : m = [] := List.eq_nil_iff_forall_not_mem.2 fun a ha =>
      h a (hr ▸ List.mem_append_right _ ha) (hl ▸ List.mem_append_left _ ha)
    rw [hr, hl, hnil, List.append_nil, List.nil_append]
    exact ⟨rfl, rfl⟩
  · have hnil : m = [] := List.eq_nil_iff_forall_not_mem.2 fun a ha =>
      h' a (hl ▸ List.mem_append_right _ ha) (hr ▸ List.mem_append_left _ ha)
    rw [hr, hl, hnil, List.append_nil, List.nil_append]
    exact ⟨rfl, rfl⟩

theorem flatMap_toLexeme (elements : List Element) :
    (elements.map Element.toLexeme).flatMap Lexeme.text = elements.flatMap Element.text := List.flatMap_map ..

/-- A brace that is found stands in one element, so what is found in a text is right if it is in every element. -/
theorem scanText_eq_braces_iff (before : Text) (context : Context) (elements : List Element) :
    scanText before context (elements.flatMap Element.text) = Lexeme.braces before (elements.map Element.toLexeme) ↔
      Element.Faithful before context elements := by
  induction elements generalizing before context with
  | nil => exact iff_of_true rfl trivial
  | cons e rest ih =>
    rw [List.flatMap_cons, scanText_append, List.map_cons, Lexeme.braces, append_eq_append_iff_of_disjoint]
    · exact and_congr_right fun _ => ih _ _
    · exact fun b hb hscan => (standsIn_of_mem_brace hb).not_after (standsIn_of_mem_scanText hscan)
    · intro b hscan hb
      have hrest := standsIn_of_mem_braces hb
      rw [flatMap_toLexeme] at hrest
      exact (standsIn_of_mem_scanText hscan).not_after hrest

/-! ### Reading the content of a literal as code -/

/-- Between two quotes the text reads as these lexemes, and the second quote then opens a string. -/
def Reads (content : Text) (lexemes : List Lexeme) : Prop :=
  lexemes.flatMap Lexeme.text = content ∧ Lexeme.Sequence ['"'] (lexemes ++ [.string false []])

def Readable (content : Text) : Prop := ∃ lexemes, Reads content lexemes

/-- No lexeme of the text is a brace of the code. -/
def Inert (content : Text) : Prop := ∃ lexemes, Reads content lexemes ∧ Lexeme.braces [] lexemes = []

namespace Lexeme
variable {e : Lexeme} {lexemes : List Lexeme} {before before' after after' w v : Text}

/-- Of the text after a lexeme only the first character matters. -/
theorem Fits.of_head? (h : e.Fits before after) (hhead : after.head? = after'.head?) : e.Fits before after' := by
  have hfirst (c : Char) : [c] <+: after ↔ [c] <+: after' := by
    cases after <;> cases after' <;> simp_all
  cases e with
  | code c => simpa only [Fits, hfirst] using h
  | verbatim opening body => simpa only [Fits, hfirst] using h
  | _ => exact h

/-- Of the text before a lexeme only what stands after the last quote matters. -/
theorem Fits.of_quote (h : e.Fits ('"' :: v) after) (w : Text) : e.Fits (w ++ '"' :: v) after := by
  have hsuffix {s : Text} (hs : '"' ∉ s) (h : s <:+ w ++ '"' :: v) : s <:+ '"' :: v := by
    rcases List.suffix_or_suffix_of_suffix h (List.suffix_append w ('"' :: v)) with h | h
    · exact h
    · exact absurd (h.subset List.mem_cons_self) hs
  cases e with
  | string interpolated body =>
    obtain ⟨hbody, h₁, h₂⟩ := h
    exact ⟨hbody, fun h => h₁ (hsuffix (by decide) h), fun h => h₂ (hsuffix (by decide) h)⟩
  | _ => exact h

theorem Sequence.of_quote (h : Sequence ('"' :: v) lexemes) (w : Text) : Sequence (w ++ '"' :: v) lexemes := by
  induction lexemes generalizing v with
  | nil => trivial
  | cons e rest ih =>
    refine ⟨h.1.of_quote w, ?_⟩
    rw [List.append_assoc, List.cons_append]
    exact ih h.2

theorem braces_eq_nil (h : braces before lexemes = []) : braces before' lexemes = [] := by
  induction lexemes generalizing before before' with
  | nil => rfl
  | cons e rest ih =>
    obtain ⟨he, hrest⟩ := List.append_eq_nil_iff.1 h
    refine List.append_eq_nil_iff.2 ⟨?_, ih hrest⟩
    cases e with
    | code c =>
      have hc : ¬ (c = '{' ∨ c = '}') := fun hc => by simp [brace, braceAfter, hc] at he
      exact if_neg hc
    | _ => rfl

end Lexeme

/-- Complete lexemes are scanned as they are, also if a string follows that is not complete yet. -/
theorem scanText_append_quote {lexemes : List Lexeme} {before : Text}
    (h : Lexeme.Sequence before (lexemes ++ [.string false []])) (rest : Text) :
    scanText before .code (lexemes.flatMap Lexeme.text ++ '"' :: rest) =
      Lexeme.braces before lexemes ++ scanText (before ++ lexemes.flatMap Lexeme.text ++ ['"']) .string rest := by
  induction lexemes generalizing before with
  | nil =>
    obtain ⟨⟨-, h₁, h₂⟩, -⟩ := h
    simpa [Lexeme.braces] using passes_stringQuote h₁ h₂ rest
  | cons e lexemes ih =>
    obtain ⟨hfit, hrest⟩ := h
    have hfit' : e.Fits before (lexemes.flatMap Lexeme.text ++ '"' :: rest) :=
      hfit.of_head? (by cases h : lexemes.flatMap Lexeme.text <;> simp [h, Lexeme.text])
    rw [List.flatMap_cons, List.append_assoc, scanText_lexeme hfit', ih hrest, Lexeme.braces]
    simp only [List.append_assoc]

/-! ### Interpolated strings -/

/-- The text, read after `before` in a string, leads back to the string, and these braces are found in it. -/
def Returns (before t : Text) (found : List Brace) : Prop :=
  ∀ rest, scanText before .string (t ++ rest) = found ++ scanText (before ++ t) .string rest

section
variable {before t u : Text} {found more : List Brace}

theorem returns_of_escapedBody (h : EscapedBody '"' t) : Returns before t [] := passes_stringBody h

theorem Returns.append (ht : Returns before t found) (hu : Returns (before ++ t) u more) :
    Returns before (t ++ u) (found ++ more) := by
  intro rest
  rw [List.append_assoc, ht, hu, List.append_assoc, List.append_assoc]

theorem returns_literal {content : Text} {lexemes : List Lexeme} (h : Reads content lexemes) (before : Text) :
    Returns before ('"' :: content ++ ['"']) (Lexeme.braces (before ++ ['"']) lexemes) := by
  obtain ⟨rfl, hs⟩ := h
  intro rest
  have hclose : Passes before .string ['"'] .code := passes_single (by simp [Context.isCode]) rfl
  have hcode := scanText_append_quote (hs.of_quote before) rest
  simpa using (hclose _).trans hcode

/-- The text leads back to the string, and braces are found in it unless these contents are inert. -/
def ReturnsWith (before t : Text) (contents : List Text) : Prop :=
  ∃ found, Returns before t found ∧ (found = [] ↔ ∀ b ∈ contents, Inert b)

theorem ReturnsWith.append {contents others : List Text} (ht : ReturnsWith before t contents)
    (hu : ReturnsWith (before ++ t) u others) : ReturnsWith before (t ++ u) (contents ++ others) := by
  obtain ⟨found, ht, hfound⟩ := ht
  obtain ⟨more, hu, hmore⟩ := hu
  refine ⟨found ++ more, ht.append hu, ?_⟩
  rw [List.append_eq_nil_iff, hfound, hmore, List.forall_mem_append]

theorem returnsWith_of_escapedBody (h : EscapedBody '"' t) : ReturnsWith before t [] :=
  ⟨[], returns_of_escapedBody h, by simp⟩

theorem returnsWith_literal {content : Text} (h : Readable content) (before : Text) :
    ReturnsWith before ('"' :: content ++ ['"']) [content] := by
  obtain ⟨lexemes, h⟩ := h
  have hreturns := returns_literal h before
  refine ⟨_, hreturns, ?_⟩
  rw [List.forall_mem_singleton]
  constructor
  · intro hnone
    exact ⟨lexemes, h, Lexeme.braces_eq_nil hnone⟩
  · -- two readings of the content find the same, since the scanner does
    rintro ⟨others, hothers, hnone⟩
    have hsame := (hreturns []).symm.trans (returns_literal hothers before [])
    rw [List.append_cancel_right hsame]
    exact Lexeme.braces_eq_nil hnone

theorem returnsWith_flatMap {α : Type} {text : α → Text} {contents : α → List Text} {items : List α}
    (h : ∀ x ∈ items, ∀ before, ReturnsWith before (text x) (contents x)) (before : Text) :
    ReturnsWith before (items.flatMap text) (items.flatMap contents) := by
  induction items generalizing before with
  | nil => exact returnsWith_of_escapedBody .nil
  | cons x items ih =>
    obtain ⟨hx, hitems⟩ := List.forall_mem_cons.1 h
    exact (hx before).append (ih hitems _)

theorem Piece.returnsWith {piece : Piece} (hp : piece.Complete) (hr : ∀ b ∈ piece.contents, Readable b)
    (before : Text) : ReturnsWith before piece.text piece.contents := by
  cases piece with
  | code t => exact returnsWith_of_escapedBody hp
  | literal content => exact returnsWith_literal (hr content List.mem_cons_self) before

theorem Part.returnsWith {part : Part} (hp : part.Complete) (hr : ∀ b ∈ part.contents, Readable b)
    (before : Text) : ReturnsWith before part.text part.contents := by
  cases part with
  | plain t => exact returnsWith_of_escapedBody hp
  | hole pieces =>
    have hpieces (before : Text) : ReturnsWith before (pieces.flatMap Piece.text) (pieces.flatMap Piece.contents) :=
      returnsWith_flatMap (fun p hm => p.returnsWith (hp p hm) fun b hb => hr b (List.mem_flatMap.2 ⟨p, hm, hb⟩)) before
    have hopen : ReturnsWith before ['{'] [] := returnsWith_of_escapedBody (escapedBody_of_all (by decide))
    have hclose (before : Text) : ReturnsWith before ['}'] [] :=
      returnsWith_of_escapedBody (escapedBody_of_all (by decide))
    simpa [text, contents] using (hopen.append (hpieces _)).append (hclose _)

end

/-! ### Texts with interpolated strings -/

variable {before rest : Text} {elements : List Element}

/-- From the code, an element takes the scanner back to the code, and adds braces unless its contents are inert. -/
theorem scanText_element {e : Element} (h : e.Fits before rest) (hr : ∀ b ∈ e.contents, Readable b) :
    ∃ found, scanText before .code (e.text ++ rest) =
        e.toLexeme.brace before ++ (found ++ scanText (before ++ e.text) .code rest) ∧
      (found = [] ↔ ∀ b ∈ e.contents, Inert b) := by
  cases e with
  | lexeme e => exact ⟨[], scanText_lexeme h, by simp [Element.contents]⟩
  | interpolated parts =>
    obtain ⟨hparts, hat⟩ := h
    obtain ⟨found, hreturns, hfound⟩ := returnsWith_flatMap
      (fun p hm => Part.returnsWith (hparts p hm) fun b hb => hr b (List.mem_flatMap.2 ⟨p, hm, hb⟩))
      (before ++ ['$', '"'])
    refine ⟨found, ?_, hfound⟩
    have hclose : Passes (before ++ ['$', '"'] ++ parts.flatMap Part.text) .string ['"'] .code :=
      passes_single (by simp [Context.isCode]) rfl
    calc scanText before .code ((Element.interpolated parts).text ++ rest)
        = scanText before .code (['$', '"'] ++ (parts.flatMap Part.text ++ (['"'] ++ rest))) := by
          simp [Element.text, Element.toLexeme, Lexeme.text]
      _ = found ++ scanText (before ++ ['$', '"'] ++ parts.flatMap Part.text) .string (['"'] ++ rest) := by
          rw [passes_dollarQuote hat, hreturns]
      _ = found ++ scanText (before ++ (Element.interpolated parts).text) .code rest := by
          rw [hclose]
          simp [Element.text, Element.toLexeme, Lexeme.text]

/-- Every brace of the code is found, and nothing else exactly if all contents are inert. -/
theorem scanText_elements (h : Element.Sequence before elements)
    (hr : ∀ b ∈ elements.flatMap Element.contents, Readable b) :
    (Lexeme.braces before (elements.map Element.toLexeme)).Sublist
        (scanText before .code (elements.flatMap Element.text)) ∧
      (scanText before .code (elements.flatMap Element.text) =
          Lexeme.braces before (elements.map Element.toLexeme) ↔
        ∀ b ∈ elements.flatMap Element.contents, Inert b) := by
  induction elements generalizing before with
  | nil => exact ⟨List.Sublist.refl _, by simp [scanText, Lexeme.braces]⟩
  | cons e elements ih =>
    rw [List.flatMap_cons, List.forall_mem_append] at hr
    obtain ⟨hsub, hiff⟩ := ih h.2 hr.2
    obtain ⟨found, hscan, hfound⟩ := scanText_element h.1 hr.1
    have htext : e.toLexeme.text = e.text := rfl
    rw [List.flatMap_cons, List.flatMap_cons, hscan, List.map_cons, Lexeme.braces, htext, List.forall_mem_append]
    refine ⟨(List.Sublist.refl _).append (hsub.trans (List.sublist_append_right _ _)), ?_⟩
    rw [List.append_cancel_left_eq, ← hfound, ← hiff]
    constructor
    · intro heq
      have hnil : found = [] := by
        have hlength := congrArg List.length heq
        have hle := hsub.length_le
        rw [List.length_append] at hlength
        exact List.eq_nil_of_length_eq_zero (by omega)
      rw [hnil, List.nil_append] at heq
      exact ⟨hnil, heq⟩
    · rintro ⟨rfl, heq⟩
      exact heq

/-! ### The content between the outer braces -/

section
variable {t p q m u v : Text}

theorem interior?_eq_some (ht : t = p ++ '{' :: (m ++ '}' :: u)) (ho : firstOpening? t.lines = some (braceAt p true))
    (hc : lastClosing? t.lines = some (braceAt (p ++ '{' :: m) false)) : interior? t = some m := by
  have hopening {q v : Text} (h : t = q ++ v) (hq : firstOpening? t.lines = some (braceAt q true)) : p = q :=
    eq_of_braceAt_eq (ht.symm.trans h) (Option.some.inj (ho.symm.trans hq))
  have hclosing {q v : Text} (h : t = q ++ v) (hq : lastClosing? t.lines = some (braceAt q false)) :
      p ++ '{' :: m = q := by
    have hsplit : (p ++ '{' :: m) ++ '}' :: u = q ++ v := by simp [← h, ht]
    exact eq_of_braceAt_eq hsplit (Option.some.inj (hc.symm.trans hq))
  have hinterior := interior_interior? t
  generalize interior? t = o at hinterior
  cases hinterior with
  | noOpening h => rw [h] at ho; cases ho
  | noClosing h => rw [h] at hc; cases hc
  | reversed q n v ht' ho' hc' =>
    have hp : p = q ++ '}' :: n := hopening (v := '{' :: v) (by simp [ht']) ho'
    have hq := hclosing ht' hc'
    have hlength := congrArg List.length hq
    simp [hp] at hlength
  | between q n v ht' ho' hc' =>
    obtain rfl : p = q := hopening ht' ho'
    have hm : p ++ '{' :: m = p ++ '{' :: n := hclosing (v := '}' :: v) (by simp [ht']) hc'
    rw [List.append_cancel_left_eq, List.cons_inj_right] at hm
    rw [hm]

theorem indentation_trim (t : Text) : Text.indentation (Text.trim t) = [] := by
  obtain ⟨u, hu⟩ := Text.dropEndWhile_prefix_self Text.isBlank t.trimStart
  cases htrim : t.trim with
  | nil => rfl
  | cons c rest =>
    have hstart : t.trimStart = c :: (rest ++ u) := by
      rw [← hu, ← List.cons_append, ← htrim]
      rfl
    have hc : Text.isBlank c = false := by
      have hhead := List.head?_dropWhile_not Text.isBlank t
      rw [show t.dropWhile Text.isBlank = c :: (rest ++ u) from hstart] at hhead
      simpa using hhead
    rw [Text.indentation, List.takeWhile_cons_of_neg (by simp [hc])]

theorem dedent_keepText_trim (t : Text) : dedent (keepText Text.trim t) = keepText Text.trim t := by
  refine dedent_eq_self ?_
  unfold keepText
  split
  · rfl
  · cases h : t.trim.allBlank <;> simp [commonIndent?, h, indentation_trim]

/-- The content of a text whose outer braces stand on one line. -/
theorem ofText_content_of_line (ht : t = p ++ '{' :: (m ++ '}' :: u))
    (ho : firstOpening? t.lines = some (braceAt p true))
    (hc : lastClosing? t.lines = some (braceAt (p ++ '{' :: m) false)) (hm : '\n' ∉ m) :
    ofText .content t = Text.trim m := by
  obtain ⟨above, middle, below, hsplit, habove, hbelow, hlines⟩ := exists_lines_eq_dropBlankEnds t
  have hmiddle : interior? middle = some m := by
    rw [← interior?_append_blank hbelow, ← interior?_blank_append habove, ← hsplit]
    exact interior?_eq_some ht ho hc
  have hinterior := interior_interior? middle
  rw [hmiddle] at hinterior
  cases hinterior with
  | between q _ v ht' ho' hc' =>
    rw [ofText, ← hlines]
    show Text.joinWith ['\n'] (dedent (content middle.lines)) = Text.trim m
    rw [content_of_line ht' ho' hc' hm, dedent_keepText_trim, keepText]
    split
    next hblank =>
      have hstart : m.trimStart = [] := List.dropWhile_eq_nil_iff.2 (List.all_eq_true.1 hblank)
      rw [Text.trim, hstart]
      rfl
    next => rfl

end

namespace Lexeme
variable {b : Brace} {lexemes head tail : List Lexeme}

theorem mem_of_mem_braces (h : b ∈ braces before lexemes) : code (braceChar b.isOpening) ∈ lexemes := by
  induction lexemes generalizing before with
  | nil => cases h
  | cons e rest ih =>
    rcases List.mem_append.1 h with h | h
    · cases e with
      | code c =>
        by_cases hc : c = '{' ∨ c = '}'
        · rw [brace, braceAfter, if_pos hc, List.mem_singleton] at h
          rcases hc with rfl | rfl <;> simp [h, braceChar]
        · rw [brace, braceAfter, if_neg hc] at h
          cases h
      | _ => cases h
    · exact List.mem_cons_of_mem e (ih h)

theorem find?_braces_opening (h : code '{' ∉ head) (rest : List Lexeme) :
    (braces [] (head ++ code '{' :: rest)).find? (·.isOpening) = some (braceAt (head.flatMap text) true) := by
  have hnone : (braces [] head).find? (·.isOpening) = none := by
    refine List.find?_eq_none.2 fun b hb hopening => h ?_
    have hmem := mem_of_mem_braces hb
    rwa [hopening] at hmem
  rw [braces_append, List.find?_append, hnone]
  rfl

theorem find?_braces_closing (h : code '}' ∉ tail) (lexemes : List Lexeme) :
    (braces [] (lexemes ++ code '}' :: tail)).reverse.find? (fun b => !b.isOpening) =
      some (braceAt (lexemes.flatMap text) false) := by
  have hnone (before : Text) : (braces before tail).reverse.find? (fun b => !b.isOpening) = none := by
    refine List.find?_eq_none.2 fun b hb hclosing => h ?_
    have hmem := mem_of_mem_braces (List.mem_reverse.1 hb)
    rw [Bool.not_eq_true'] at hclosing
    rwa [hclosing] at hmem
  have hbraces : braces [] (lexemes ++ code '}' :: tail) =
      braces [] lexemes ++ braceAt (lexemes.flatMap text) false ::
        braces (lexemes.flatMap text ++ ['}']) tail := by
    rw [braces_append]
    rfl
  rw [hbraces, List.reverse_append, List.reverse_cons, List.append_assoc, List.find?_append, hnone]
  rfl

end Lexeme

/-- The elements between the outer braces of the code, which stand on one line. -/
def Element.HasBody (elements body : List Element) : Prop :=
  ∃ head tail, elements = head ++ .lexeme (.code '{') :: (body ++ .lexeme (.code '}') :: tail) ∧
    .lexeme (.code '{') ∉ head ∧ .lexeme (.code '}') ∉ tail ∧ '\n' ∉ body.flatMap Element.text

theorem Element.lexeme_mem {c : Char} (h : .code c ∈ elements.map toLexeme) : .lexeme (.code c) ∈ elements := by
  obtain ⟨e, he, hcode⟩ := List.mem_map.1 h
  cases e with
  | lexeme e => rwa [show e = .code c from hcode] at he
  | interpolated parts => cases hcode

theorem ofText_content_of_hasBody {body : List Element} (h : Element.HasBody elements body)
    (hb : codeBraces (Text.lines (elements.flatMap Element.text)) =
      Lexeme.braces [] (elements.map Element.toLexeme)) :
    ofText .content (elements.flatMap Element.text) = Text.trim (body.flatMap Element.text) := by
  obtain ⟨head, tail, rfl, hhead, htail, hline⟩ := h
  rw [List.map_append, List.map_cons] at hb
  have hopen := Lexeme.find?_braces_opening (mt Element.lexeme_mem hhead)
    ((body ++ .lexeme (.code '}') :: tail).map Element.toLexeme)
  have hclose := Lexeme.find?_braces_closing (mt Element.lexeme_mem htail)
    (head.map Element.toLexeme ++ .code '{' :: body.map Element.toLexeme)
  rw [flatMap_toLexeme] at hopen
  rw [List.flatMap_append, List.flatMap_cons, flatMap_toLexeme, flatMap_toLexeme] at hclose
  refine ofText_content_of_line (p := head.flatMap Element.text) (u := tail.flatMap Element.text) ?_ ?_ ?_ hline
  · simp [Element.text, Element.toLexeme, Lexeme.text]
  · rw [firstOpening?, hb]
    exact hopen
  · rw [lastClosing?, hb]
    simpa [Element.toLexeme, Lexeme.text] using hclose

/-- In a text of complete elements the braces of the code and no others are found exactly if of each element, in the
context in which the scanner comes to it, just the brace is found that it is. Where all contents of literals in holes
read as lexemes, that is so exactly if no content has a brace of its own. Then the content of a member on one line is
its body. -/
theorem codeBraces_elements_iff {elements : List Element} (hs : Element.Sequence [] elements) :
    (codeBraces (Text.lines (elements.flatMap Element.text)) = Lexeme.braces [] (elements.map Element.toLexeme) ↔
        Element.Faithful [] .code elements) ∧
      ((∀ b ∈ elements.flatMap Element.contents, Readable b) →
        (Element.Faithful [] .code elements ↔ ∀ b ∈ elements.flatMap Element.contents, Inert b)) ∧
      (Element.Faithful [] .code elements →
        ∀ source span body, spanText source span = elements.flatMap Element.text → Element.HasBody elements body →
          extractSpan source .content span = Text.trim (body.flatMap Element.text)) := by
  have hiff := scanText_eq_braces_iff [] .code elements
  refine ⟨by rw [codeBraces_lines]; exact hiff, fun hr => hiff.symm.trans (scanText_elements hs hr).2, ?_⟩
  intro hfaithful source span body hspan hbody
  rw [extractSpan, hspan]
  exact ofText_content_of_hasBody hbody (by rw [codeBraces_lines]; exact hiff.2 hfaithful)

/-! ### Two members -/

/-- No character of the code in a hole is an escape. -/
def Piece.isSimple : Piece → Bool
  | code t => t.all fun c => c ∉ ['"', '\\', '\n']
  | literal _ => true

def Part.isSimple : Part → Bool
  | plain t => t.all fun c => c ∉ ['"', '\\', '\n']
  | hole pieces => pieces.all Piece.isSimple

theorem Piece.complete_of_isSimple {piece : Piece} (h : piece.isSimple) : piece.Complete := by
  cases piece with
  | code t => exact escapedBody_of_all h
  | literal content => trivial

theorem Part.complete_of_isSimple {part : Part} (h : part.isSimple) : part.Complete := by
  cases part with
  | plain t => exact escapedBody_of_all h
  | hole pieces => exact fun p hp => Piece.complete_of_isSimple (List.all_eq_true.1 h p hp)

namespace Element

/-- The characters as elements of the code. -/
def ofCode (t : Text) : List Element := t.map fun c => .lexeme (.code c)

/-- An interpolated string with code around it. -/
def around (start : Text) (parts : List Part) (rest : Text) : List Element :=
  ofCode start ++ .interpolated parts :: ofCode rest

/-- A member with its body in braces. -/
def member (head : Text) (body : List Element) : List Element :=
  ofCode head ++ .lexeme (.code '{') :: (body ++ [.lexeme (.code '}')])

theorem sequence_ofCode {t : Text} (h : t.all fun c => c ∉ ['"', '\'', '/'])
    (hrest : Sequence (before ++ t) elements) : Sequence before (ofCode t ++ elements) := by
  induction t generalizing before with
  | nil => simpa [ofCode] using hrest
  | cons c t ih =>
    obtain ⟨hc, ht⟩ := Bool.and_eq_true_iff.1 h
    have hc : c ≠ '"' ∧ c ≠ '\'' ∧ c ≠ '/' := by simpa using hc
    refine ⟨⟨hc.1, hc.2.1, fun hslash => absurd hslash hc.2.2⟩, ih ht ?_⟩
    simpa [text, toLexeme, Lexeme.text] using hrest

theorem sequence_member {head start after : Text} {parts : List Part}
    (hhead : head.all fun c => c ∉ ['"', '\'', '/', '@']) (hstart : start.all fun c => c ∉ ['"', '\'', '/', '@'])
    (hafter : after.all fun c => c ∉ ['"', '\'', '/', '@']) (hparts : parts.all Part.isSimple) :
    Sequence [] (member head (around start parts after)) := by
  have hcode {t : Text} (h : t.all fun c => c ∉ ['"', '\'', '/', '@']) : t.all fun c => c ∉ ['"', '\'', '/'] :=
    List.all_eq_true.2 fun c hc => by
      have hc := List.all_eq_true.1 h c hc
      simp_all
  have hno {t : Text} (h : t.all fun c => c ∉ ['"', '\'', '/', '@']) : '@' ∉ t := fun hm => by
    simpa using List.all_eq_true.1 h '@' hm
  have hat : ¬ ['@'] <:+ [] ++ head ++ ['{'] ++ start := fun h => by
    simpa [hno hhead, hno hstart] using h.subset List.mem_cons_self
  have hbrace (c : Char) (hc : c ∈ ['{', '}']) (before after : Text) : Fits before after (.lexeme (.code c)) := by
    simp only [List.mem_cons, List.not_mem_nil, or_false] at hc
    rcases hc with rfl | rfl <;> simp [Fits, Lexeme.Fits]
  refine sequence_ofCode (hcode hhead) ⟨hbrace '{' (by simp) _ _, ?_⟩
  have hbody : around start parts after ++ [.lexeme (.code '}')] =
      ofCode start ++ .interpolated parts :: (ofCode after ++ [.lexeme (.code '}')]) := by simp [around]
  rw [hbody]
  have hcomplete : ∀ p ∈ parts, p.Complete := fun p hp => Part.complete_of_isSimple (List.all_eq_true.1 hparts p hp)
  refine sequence_ofCode (hcode hstart) ⟨⟨hcomplete, hat⟩, ?_⟩
  exact sequence_ofCode (hcode hafter) ⟨hbrace '}' (by simp) _ _, trivial⟩

end Element

open Element (around member ofCode)

/-- A hole with two literals; the content of the first reads as a character literal. -/
def paddedBody : List Element :=
  around " if (on) \x7b Put(".toList [.hole [.code "Pad(".toList, .literal "'\x7d'".toList, .code " + ".toList,
    .literal ", ".toList, .code ")".toList], .plain ": \x7b\x7bx\x7d\x7d".toList] "); \x7d ".toList

def paddedMember : List Element := member "void Log() ".toList paddedBody

theorem inert_paddedMember : ∀ b ∈ paddedMember.flatMap Element.contents, Inert b := by
  have hcontents : paddedMember.flatMap Element.contents = ["'\x7d'".toList, ", ".toList] := by decide +kernel
  have hcharacter : Inert "'\x7d'".toList := by
    have hbody : EscapedBody '\'' ['}'] := escapedBody_of_all (by decide)
    refine ⟨[.character ['}']], ⟨rfl, ?_⟩, rfl⟩
    exact ⟨hbody, ⟨.nil, by decide, by decide⟩, trivial⟩
  have hcomma : Inert ", ".toList := by
    refine ⟨", ".toList.map .code, ⟨rfl, Lexeme.sequence_code (by decide) ?_⟩, rfl⟩
    exact ⟨⟨.nil, by decide, by decide⟩, trivial⟩
  rw [hcontents]
  exact List.forall_mem_cons.2 ⟨hcharacter, List.forall_mem_singleton.2 hcomma⟩

/-- Both literals of the hole are skipped, and the braces after them are found. -/
theorem codeBraces_paddedMember :
    Element.Sequence [] paddedMember ∧ (∀ b ∈ paddedMember.flatMap Element.contents, Inert b) ∧
      Element.HasBody paddedMember paddedBody ∧
      codeBraces (Text.lines (paddedMember.flatMap Element.text)) =
        [⟨0, 11, true⟩, ⟨0, 21, true⟩, ⟨0, 59, false⟩, ⟨0, 61, false⟩] ∧
      extractSpan (paddedMember.flatMap Element.text) .content ⟨0, 62⟩ =
        "if (on) \x7b Put($\"\x7bPad(\"'\x7d'\" + \", \")\x7d: \x7b\x7bx\x7d\x7d\"); \x7d".toList := by
  have hs : Element.Sequence [] paddedMember := Element.sequence_member (by decide) (by decide) (by decide) (by decide)
  have hinert := inert_paddedMember
  have hr : ∀ b ∈ paddedMember.flatMap Element.contents, Readable b := fun b hb =>
    (hinert b hb).imp fun _ h => h.1
  have hbody : Element.HasBody paddedMember paddedBody :=
    ⟨ofCode "void Log() ".toList, [], rfl, by decide +kernel, by simp, by decide +kernel⟩
  obtain ⟨hbraces, hiff, hcontent⟩ := codeBraces_elements_iff hs
  have hfaithful := (hiff hr).2 hinert
  refine ⟨hs, hinert, hbody, (hbraces.2 hfaithful).trans (by decide +kernel), ?_⟩
  exact (hcontent hfaithful _ _ _ (by decide +kernel) hbody).trans (by decide +kernel)

/-- The content of the literal in the hole starts a comment. -/
def slashesBody : List Element :=
  around " return ".toList [.hole [.code "Join(".toList, .literal "//".toList, .code ")".toList]] "; ".toList

def slashesMember : List Element := member "string Url() ".toList slashesBody

/-- The slashes hide the rest of the line, and with it the brace that closes the member. -/
theorem extractSpan_content_slashes :
    Element.Sequence [] slashesMember ∧ Element.HasBody slashesMember slashesBody ∧
      ¬ Element.Faithful [] .code slashesMember ∧
      Lexeme.braces [] (slashesMember.map Element.toLexeme) = [⟨0, 13, true⟩, ⟨0, 39, false⟩] ∧
      codeBraces (Text.lines (slashesMember.flatMap Element.text)) = [⟨0, 13, true⟩] ∧
      spanText (slashesMember.flatMap Element.text) ⟨0, 40⟩ = slashesMember.flatMap Element.text ∧
      Text.trim (slashesBody.flatMap Element.text) = "return $\"\x7bJoin(\"//\")\x7d\";".toList ∧
      extractSpan (slashesMember.flatMap Element.text) .content ⟨0, 40⟩ = [] := by
  have hs : Element.Sequence [] slashesMember := Element.sequence_member (by decide) (by decide) (by decide) (by decide)
  have hbody : Element.HasBody slashesMember slashesBody :=
    ⟨ofCode "string Url() ".toList, [], rfl, by decide +kernel, by simp, by decide +kernel⟩
  exact ⟨hs, hbody, by decide +kernel, by decide +kernel, by decide +kernel, by decide +kernel, by decide +kernel,
    by decide +kernel⟩

end Snippet

end Excerpt
