import Excerpt.Proofs.CodeBraces
import Excerpt.Proofs.FenceLines

/-!
# The places of braces

A brace is found at a row and a column; its place in the text is what stands before it. `bracePlaces` gives the places
of the braces of the code, and `codeBraces_eq_map` says that they are where the scanner of the lines finds them. Blank
text before or after a text moves the places and changes nothing else (`bracePlaces_blank_append`,
`bracePlaces_append_blank`), so neither does it change what stands between the outer braces (`interior?`). `Interior`
says how the outer braces can stand.
-/

namespace Excerpt

namespace Text
variable {t u : Text}

/-! ### Places among the lines -/

theorem WholeLines.append (h : WholeLines t) (hu : WholeLines u) : WholeLines (t ++ u) := by
  rcases hu with rfl | hu
  · rwa [List.append_nil]
  · exact .inr (by rw [List.getLast?_append, hu, Option.some_or])

theorem WholeLines.lines_append (h : WholeLines t) (u : Text) : lines (t ++ u) = lines t ++ lines u := by
  rw [lines, h.rawLines_append, List.map_append]
  rfl

theorem WholeLines.length_lines (h : WholeLines t) : (lines t).length = t.count '\n' := by
  induction t with
  | nil => rfl
  | cons c t ih =>
    have ih := ih h.of_cons
    by_cases hc : c = '\n'
    · subst hc
      simp [lines_lineFeed, ih]
    · rw [List.count_cons_of_ne hc, ← ih]
      rcases lines_cons_cases hc t with ⟨rfl, -⟩ | ⟨-, rest, ht, hl⟩ | ⟨line, rest, ht, hl⟩
      · rcases h with h | h
        · cases h
        · exact absurd (by simpa using h) hc
      · rw [ht, hl]
      · rw [ht, hl]
        rfl

end Text

namespace Snippet
open Text (WholeLines)
variable {t u : Text} {c : Char}

theorem not_mem_lastLine (t : Text) : '\n' ∉ lastLine t := by
  intro h
  have := List.mem_takeWhile_imp (List.mem_reverse.1 h)
  simp at this

/-- What stands before the part of the last line. -/
def wholePart (t : Text) : Text := (t.reverse.dropWhile (· ≠ '\n')).reverse

theorem wholePart_append_lastLine (t : Text) : wholePart t ++ lastLine t = t := by
  rw [wholePart, lastLine, ← List.reverse_append, List.takeWhile_append_dropWhile, List.reverse_reverse]

theorem wholeLines_wholePart (t : Text) : WholeLines (wholePart t) := by
  unfold wholePart
  cases hd : t.reverse.dropWhile (· ≠ '\n') with
  | nil => exact .inl rfl
  | cons c rest =>
    have hc := List.head?_dropWhile_not (· ≠ '\n') t.reverse
    rw [hd] at hc
    refine .inr ?_
    simpa using hc

theorem length_lines_wholePart (t : Text) : (wholePart t).lines.length = t.count '\n' := by
  rw [(wholeLines_wholePart t).length_lines]
  conv_rhs => rw [← wholePart_append_lastLine t]
  rw [List.count_append, List.count_eq_zero.2 (not_mem_lastLine t), Nat.add_zero]

/-- A text is made of whole lines and the part of its last line. -/
theorem exists_append_lastLine (t : Text) :
    ∃ whole, t = whole ++ lastLine t ∧ whole.WholeLines ∧ whole.lines.length = t.count '\n' :=
  ⟨wholePart t, (wholePart_append_lastLine t).symm, wholeLines_wholePart t, length_lines_wholePart t⟩

theorem lastLine_append_of_not_mem (t : Text) (h : '\n' ∉ u) : lastLine (t ++ u) = lastLine t ++ u := by
  have hall : ∀ c ∈ u.reverse, decide (c ≠ '\n') = true := by
    intro c hc
    simp only [ne_eq, decide_not, Bool.not_eq_true', decide_eq_false_iff_not]
    rintro rfl
    exact h (List.mem_reverse.1 hc)
  rw [lastLine, List.reverse_append, List.takeWhile_append_of_pos hall, List.reverse_append, List.reverse_reverse]
  rfl

/-- The line in which a character stands that ends no line, and the lines after it. -/
theorem lines_append_cons {l : Text} (hl : '\n' ∉ l) (hc : c ≠ '\n') (hr : c ≠ '\r') (t : Text) :
    ∃ rest lines,
      Text.lines (c :: t) = (c :: rest) :: lines ∧ Text.lines (l ++ c :: t) = (l ++ c :: rest) :: lines := by
  induction l with
  | nil =>
    rcases Text.lines_cons_cases hc t with ⟨-, h⟩ | ⟨h, -⟩ | ⟨rest, lines, -, h⟩
    · exact ⟨[], [], h, h⟩
    · exact absurd h hr
    · exact ⟨rest, lines, h, h⟩
  | cons d l ih =>
    obtain ⟨hd, hl⟩ := List.ne_and_not_mem_of_not_mem_cons hl
    obtain ⟨rest, lines, h, h'⟩ := ih hl
    refine ⟨rest, lines, h, ?_⟩
    rcases Text.lines_cons_cases (Ne.symm hd) (l ++ c :: t) with
      ⟨hnil, -⟩ | ⟨-, lines', hnil, -⟩ | ⟨line, lines', ht, hdt⟩
    · simp at hnil
    · rw [h'] at hnil
      simp at hnil
    · rw [h'] at ht
      cases ht
      exact hdt

/-! ### Braces at their places -/

/-- The brace that stands after a text. -/
def braceAt (before : Text) (isOpening : Bool) : Brace :=
  ⟨before.count '\n', (lastLine before).byteLength, isOpening⟩

/-- The character of a brace. -/
def braceChar (isOpening : Bool) : Char := if isOpening then '{' else '}'

/-- What stands before each brace of the code in the text that follows `before`, and whether it is an opening one. -/
def bracePlaces (before : Text) (context : Context) : Text → List (Text × Bool)
  | [] => []
  | c :: rest =>
    (if context.isCode ∧ (c = '{' ∨ c = '}') then [(before, c == '{')] else []) ++
      bracePlaces (before ++ [c]) (context.read before c) rest

variable {before : Text} {context : Context} {place : Text × Bool}

theorem scanText_eq_map (before : Text) (context : Context) (t : Text) :
    scanText before context t = (bracePlaces before context t).map fun place => braceAt place.1 place.2 := by
  induction t generalizing before context with
  | nil => rfl
  | cons c t ih =>
    rw [scanText, bracePlaces, List.map_append, ih]
    congr 1
    by_cases hb : c = '{' ∨ c = '}' <;> cases context.isCode <;> simp [braceAfter, braceAt, hb]

theorem codeBraces_eq_map (t : Text) :
    codeBraces t.lines = (bracePlaces [] .code t).map fun place => braceAt place.1 place.2 := by
  rw [codeBraces_lines, scanText_eq_map]

theorem exists_of_mem_bracePlaces (h : place ∈ bracePlaces before context t) :
    ∃ u v, t = u ++ braceChar place.2 :: v ∧ place.1 = before ++ u := by
  induction t generalizing before context with
  | nil => cases h
  | cons c t ih =>
    rw [bracePlaces] at h
    rcases List.mem_append.1 h with h | h
    · split at h
      next hc =>
        rw [List.mem_singleton.1 h]
        refine ⟨[], t, ?_, by simp⟩
        rcases hc.2 with rfl | rfl <;> rfl
      next => cases h
    · obtain ⟨u, v, rfl, hp⟩ := ih h
      exact ⟨c :: u, v, rfl, by rw [hp, List.append_assoc, List.singleton_append]⟩

/-! ### Blank text around a text -/

section
open Text (isBlank allBlank)
variable {blank s : Text}

theorem suffix_blank_append_iff (hb : blank.allBlank) (hs : ∀ c ∈ s, isBlank c = false) :
    s <:+ blank ++ before ↔ s <:+ before := by
  constructor
  · rintro ⟨w, hw⟩
    rcases List.append_eq_append_iff.1 hw with ⟨a, hblank, hsplit⟩ | ⟨a, -, hbefore⟩
    · -- the suffix would begin in the blank text
      have hnil : a = [] := by
        refine List.eq_nil_iff_forall_not_mem.2 fun c hc => ?_
        have hcb : isBlank c := List.all_eq_true.1 hb c (hblank ▸ List.mem_append_right _ hc)
        have hcs : isBlank c = false := hs c (hsplit ▸ List.mem_append_left _ hc)
        rw [hcb] at hcs
        cases hcs
      rw [hsplit, hnil]
      exact List.suffix_rfl
    · exact ⟨a, hbefore.symm⟩
  · exact fun h => h.trans (List.suffix_append _ _)

theorem opensVerbatim_blank_append (hb : blank.allBlank) (before : Text) :
    opensVerbatim (lastLine (blank ++ before)).reverse = opensVerbatim (lastLine before).reverse := by
  have h₁ : ∀ c ∈ ['@'], isBlank c = false := List.forall_mem_singleton.2 rfl
  have h₂ : ∀ c ∈ ['@', '$'], isBlank c = false := List.forall_mem_cons.2 ⟨rfl, List.forall_mem_singleton.2 rfl⟩
  rw [Bool.eq_iff_iff, opensVerbatim_lastLine, opensVerbatim_lastLine, suffix_blank_append_iff hb h₁,
    suffix_blank_append_iff hb h₂]

theorem Context.read_blank_append (hb : blank.allBlank) (before : Text) (context : Context) (c : Char) :
    context.read (blank ++ before) c = context.read before c := by
  have hv := opensVerbatim_blank_append hb before
  unfold Context.read
  cases context <;> simp [Context.next, Context.afterCode, hv]

theorem bracePlaces_blank_before (hb : blank.allBlank) (before : Text) (context : Context) (t : Text) :
    bracePlaces (blank ++ before) context t =
      (bracePlaces before context t).map fun place => (blank ++ place.1, place.2) := by
  induction t generalizing before context with
  | nil => rfl
  | cons c t ih =>
    rw [bracePlaces, bracePlaces, List.append_assoc, Context.read_blank_append hb, ih, List.map_append]
    congr 1
    split <;> rfl

theorem bracePlaces_of_allBlank (ht : t.allBlank) : bracePlaces before context t = [] := by
  induction t generalizing before context with
  | nil => rfl
  | cons c t ih =>
    obtain ⟨hc, ht⟩ := Bool.and_eq_true_iff.1 ht
    rw [bracePlaces, ih ht, List.append_nil, if_neg]
    rintro ⟨-, rfl | rfl⟩ <;> exact absurd hc (by decide)

theorem bracePlaces_append_blank (hb : blank.allBlank) (before : Text) (context : Context) (t : Text) :
    bracePlaces before context (t ++ blank) = bracePlaces before context t := by
  induction t generalizing before context with
  | nil => exact bracePlaces_of_allBlank hb
  | cons c t ih => rw [List.cons_append, bracePlaces, bracePlaces, ih]

theorem Context.read_code_blank {c : Char} (hc : isBlank c) (before : Text) : Context.read before .code c = .code := by
  have hne : ∀ d, isBlank d = false → c ≠ d := by
    rintro d hd rfl
    rw [hc] at hd
    cases hd
  have h₁ := hne '/' (by decide)
  have h₂ := hne '"' (by decide)
  have h₃ := hne '\'' (by decide)
  simp [Context.read, Context.atLineStart, Context.next, Context.afterCode, h₁, h₂, h₃]

theorem bracePlaces_blank_append (hb : blank.allBlank) (before t : Text) :
    bracePlaces before .code (blank ++ t) = bracePlaces (before ++ blank) .code t := by
  induction blank generalizing before with
  | nil => rw [List.nil_append, List.append_nil]
  | cons c blank ih =>
    obtain ⟨hc, hb⟩ := Bool.and_eq_true_iff.1 hb
    rw [List.cons_append, bracePlaces, Context.read_code_blank hc, ih hb, List.append_assoc, List.singleton_append,
      if_neg, List.nil_append]
    rintro ⟨-, rfl | rfl⟩ <;> exact absurd hc (by decide)

/-- What stands between the first opening and the last closing brace of the code, if these are there in this order. -/
def interior? (t : Text) : Option Text :=
  match (bracePlaces [] .code t).find? (·.2), (bracePlaces [] .code t).reverse.find? (fun place => !place.2) with
  | some opening, some closing =>
    if opening.1.length < closing.1.length then some (closing.1.drop (opening.1.length + 1)) else none
  | _, _ => none

theorem interior?_append_blank (hb : blank.allBlank) (t : Text) : interior? (t ++ blank) = interior? t := by
  rw [interior?, bracePlaces_append_blank hb]
  rfl

theorem interior?_blank_append (hb : blank.allBlank) (t : Text) : interior? (blank ++ t) = interior? t := by
  have hplaces : bracePlaces [] .code (blank ++ t) =
      (bracePlaces [] .code t).map fun place => (blank ++ place.1, place.2) := by
    rw [bracePlaces_blank_append hb, List.nil_append, ← bracePlaces_blank_before hb, List.append_nil]
  rw [interior?, interior?, hplaces, ← List.map_reverse, List.find?_map, List.find?_map]
  simp only [Function.comp_def]
  cases (bracePlaces [] .code t).find? (·.2) with
  | none => rfl
  | some opening =>
    cases (bracePlaces [] .code t).reverse.find? (fun place => !place.2) with
    | none => rfl
    | some closing =>
      simp only [Option.map_some, List.length_append, Nat.add_lt_add_iff_left, Nat.add_assoc, List.drop_append]
      split <;> simp

end

/-! ### The outer braces -/

/-- The first opening brace of the code. -/
def firstOpening? (lines : List Text) : Option Brace := (codeBraces lines).find? (·.isOpening)

/-- The last closing brace of the code. -/
def lastClosing? (lines : List Text) : Option Brace := (codeBraces lines).reverse.find? fun b => !b.isOpening

theorem firstOpening?_lines (t : Text) :
    firstOpening? t.lines =
      ((bracePlaces [] .code t).find? (·.2)).map fun place => braceAt place.1 place.2 := by
  rw [firstOpening?, codeBraces_eq_map, List.find?_map]
  rfl

theorem lastClosing?_lines (t : Text) :
    lastClosing? t.lines =
      ((bracePlaces [] .code t).reverse.find? (fun place => !place.2)).map fun place => braceAt place.1 place.2 := by
  rw [lastClosing?, codeBraces_eq_map, ← List.map_reverse, List.find?_map]
  rfl

/-- How the outer braces of a text can stand, and what then is its interior. -/
inductive Interior (t : Text) : Option Text → Prop
  | noOpening (h : firstOpening? t.lines = none) : Interior t none
  | noClosing (h : lastClosing? t.lines = none) : Interior t none
  | reversed (q m u : Text) (ht : t = q ++ '}' :: (m ++ '{' :: u))
      (ho : firstOpening? t.lines = some (braceAt (q ++ '}' :: m) true))
      (hc : lastClosing? t.lines = some (braceAt q false)) : Interior t none
  | between (p m u : Text) (ht : t = p ++ '{' :: (m ++ '}' :: u))
      (ho : firstOpening? t.lines = some (braceAt p true))
      (hc : lastClosing? t.lines = some (braceAt (p ++ '{' :: m) false)) :
      Interior t (some m)

/-- Of two braces in a text, the text before one goes on with the other. -/
theorem between_or_reversed {p q u v : Text} (hu : t = p ++ '{' :: u) (hv : t = q ++ '}' :: v) :
    (∃ m, q = p ++ '{' :: m ∧ u = m ++ '}' :: v) ∨ ∃ m, p = q ++ '}' :: m ∧ v = m ++ '{' :: u := by
  rcases List.append_eq_append_iff.1 (hu.symm.trans hv) with ⟨s, hs, hsu⟩ | ⟨s, hs, hsv⟩
  · cases s with
    | nil => cases hsu
    | cons x m =>
      obtain ⟨rfl, rfl⟩ := List.cons.inj hsu
      exact .inl ⟨m, hs, rfl⟩
  · cases s with
    | nil => cases hsv
    | cons x m =>
      obtain ⟨rfl, rfl⟩ := List.cons.inj hsv
      exact .inr ⟨m, hs, rfl⟩

theorem interior_interior? (t : Text) : Interior t (interior? t) := by
  have hopen := firstOpening?_lines t
  have hclose := lastClosing?_lines t
  unfold interior?
  cases ho : (bracePlaces [] .code t).find? (·.2) with
  | none => exact .noOpening (by rw [hopen, ho]; rfl)
  | some opening =>
    cases hc : (bracePlaces [] .code t).reverse.find? (fun place => !place.2) with
    | none => exact .noClosing (by rw [hclose, hc]; rfl)
    | some closing =>
      obtain ⟨p, o⟩ := opening
      obtain ⟨q, c⟩ := closing
      obtain rfl : o = true := List.find?_some ho
      obtain rfl : c = false := by simpa using List.find?_some hc
      obtain ⟨p', u, hu, hp⟩ := exists_of_mem_bracePlaces (List.mem_of_find?_eq_some ho)
      obtain ⟨q', v, hv, hq⟩ := exists_of_mem_bracePlaces (List.mem_reverse.1 (List.mem_of_find?_eq_some hc))
      obtain rfl : p = p' := hp
      obtain rfl : q = q' := hq
      rw [ho, Option.map_some] at hopen
      rw [hc, Option.map_some] at hclose
      rcases between_or_reversed hu hv with ⟨m, hq, hm⟩ | ⟨m, hp, hm⟩
      · subst hq
        have hlt : p.length < (p ++ '{' :: m).length := by simp
        have hdrop : (p ++ '{' :: m).drop (p.length + 1) = m := by simp [List.drop_append]
        dsimp only
        rw [if_pos hlt, hdrop]
        exact .between p m v (hm ▸ hu) hopen hclose
      · subst hp
        have hlt : ¬ (q ++ '}' :: m).length < q.length := by simp
        dsimp only
        rw [if_neg hlt]
        exact .reversed q m u (hm ▸ hv) hopen hclose

end Snippet

end Excerpt
