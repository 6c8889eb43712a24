import Excerpt.Directive
import Excerpt.Proofs.FenceLines
import Excerpt.Proofs.PathWalks

/-!
# The text of a directive

A directive is read from the left: the first `[`, the next `]`, and after it a line list if there is one. So the
language may hold a `]`, the path a `[`, and the selector anything (`parse?_parts`). A text is refused for one of three
reasons (`parse?_eq_none_iff`). What `Directive.write` writes is read back, with the lines to highlight in ascending
order (`Means`).
-/

namespace Excerpt

namespace Text
variable {c sep : Char} {t : Text}

theorem breakAt_append (h : sep ∉ t) (u : Text) : breakAt sep (t ++ sep :: u) = some (t, u) := by
  induction t with
  | nil => simp [breakAt]
  | cons c t ih =>
    rw [List.mem_cons, not_or] at h
    rw [List.cons_append, breakAt, if_neg (Ne.symm h.1), ih h.2]
    rfl

theorem breakAt_eq_none (h : sep ∉ t) : breakAt sep t = none := by
  induction t with
  | nil => rfl
  | cons c t ih =>
    rw [List.mem_cons, not_or] at h
    rw [breakAt, if_neg (Ne.symm h.1), ih h.2]
    rfl

theorem trim_of_allBlank (h : t.allBlank) : trim t = [] := by
  have hstart : trimStart t = [] := List.dropWhile_eq_nil_iff.2 (List.all_eq_true.1 h)
  rw [trim, hstart]
  rfl

/-! ### Decimals -/

theorem isDigit_of_mem_ofNat {n : Nat} (h : c ∈ ofNat n) : c.isDigit :=
  Nat.isDigit_of_mem_toDigits (by decide) (by decide) h

theorem not_isBlank_of_isDigit (h : c.isDigit) : ¬ isBlank c := by
  have hc : 48 ≤ c.toNat ∧ c.toNat ≤ 57 := Char.isDigit_iff_toNat.1 h
  simp only [isBlank, Bool.or_eq_true, Bool.and_eq_true, decide_eq_true_eq, beq_iff_eq]
  omega

theorem not_mem_ofNat {n : Nat} (h : c.isDigit = false) : c ∉ ofNat n := by
  intro hm
  rw [isDigit_of_mem_ofNat hm] at h
  cases h

end Text

namespace Directive
open Text (trim allBlank)
variable {c : Char} {n m : Nat} {e t hint inner rest list language path selector : Text} {numbers lines : List Nat}
  {d : Directive}

/-! ### The lines to highlight -/

theorem digit?_of_isDigit (h : c.isDigit) : digit? c = some (c.toNat - '0'.toNat) := by
  obtain ⟨hlow, hhigh⟩ := Char.isDigit_iff_toNat.1 h
  exact if_pos ⟨hlow, hhigh⟩

theorem foldlM_digit? (h : ∀ c ∈ t, c.isDigit) (n : Nat) :
    t.foldlM (fun n c => (digit? c).map (10 * n + ·)) n = some (Nat.ofDigitChars 10 t n) := by
  induction t generalizing n with
  | nil => rfl
  | cons c t ih =>
    obtain ⟨hc, ht⟩ := List.forall_mem_cons.1 h
    rw [List.foldlM_cons, digit?_of_isDigit hc, Nat.ofDigitChars_cons]
    exact ih ht _

theorem digits?_ofNat (n : Nat) : digits? (Text.ofNat n) = some n := by
  have hfold := foldlM_digit? (fun c => Text.isDigit_of_mem_ofNat (n := n)) 0
  have hvalue : Nat.ofDigitChars 10 (Text.ofNat n) 0 = n := Nat.ofDigitChars_ten_toDigits
  rw [hvalue] at hfold
  obtain ⟨c, t, ht⟩ := List.exists_cons_of_ne_nil (Nat.toDigits_ne_nil (n := n) (b := 10))
  rw [Text.ofNat, ht] at hfold ⊢
  exact hfold

theorem lineNumber?_ofNat (h : n ≤ maxLine) : lineNumber? (Text.ofNat n) = some n := by
  have hplus : '+' ∉ Text.ofNat n := Text.not_mem_ofNat (by decide)
  have hdigits : lineNumber? (Text.ofNat n) = (digits? (Text.ofNat n)).filter (· ≤ maxLine) := by
    unfold lineNumber?
    split
    next rest hrest => exact absurd (hrest ▸ List.mem_cons_self) hplus
    next => rfl
  rw [hdigits, digits?_ofNat, Option.filter_some, if_pos (by simpa using h)]

theorem mem_insertLine : m ∈ insertLine n lines ↔ m = n ∨ m ∈ lines := by
  induction lines with
  | nil => simp [insertLine]
  | cons k lines ih =>
    rw [insertLine]
    split
    · simp
    split
    next _ heq => simp [heq]
    next => simp only [List.mem_cons, ih]; tauto

theorem pairwise_insertLine (h : lines.Pairwise (· < ·)) (n : Nat) : (insertLine n lines).Pairwise (· < ·) := by
  induction lines with
  | nil => simp [insertLine]
  | cons k lines ih =>
    obtain ⟨hk, hlines⟩ := List.pairwise_cons.1 h
    rw [insertLine]
    split
    next hlt =>
      refine List.pairwise_cons.2 ⟨fun m hm => ?_, h⟩
      rcases List.mem_cons.1 hm with rfl | hm
      · exact hlt
      · exact Nat.lt_trans hlt (hk m hm)
    next hge =>
      split
      next => exact h
      next hne =>
        refine List.pairwise_cons.2 ⟨fun m hm => ?_, ih hlines⟩
        rcases mem_insertLine.1 hm with rfl | hm
        · omega
        · exact hk m hm

/-- The list holds the numbers, ascending and each once. -/
structure Ascends (lines numbers : List Nat) : Prop where
  pairwise : lines.Pairwise (· < ·)
  mem_iff : ∀ n, n ∈ lines ↔ n ∈ numbers

theorem ascends_foldr (numbers : List Nat) : Ascends (numbers.foldr insertLine []) numbers := by
  induction numbers with
  | nil => exact ⟨.nil, fun _ => Iff.rfl⟩
  | cons n numbers ih =>
    refine ⟨pairwise_insertLine ih.pairwise n, fun m => ?_⟩
    rw [List.foldr_cons, mem_insertLine, ih.mem_iff, List.mem_cons]

theorem ascends_lineNumbers (hne : numbers ≠ []) (h : ∀ n ∈ numbers, n ≤ maxLine) :
    Ascends (lineNumbers (Text.joinWith [','] (numbers.map Text.ofNat))) numbers := by
  have hsplit : (Text.joinWith [','] (numbers.map Text.ofNat)).split ',' = numbers.map Text.ofNat := by
    refine Text.split_joinWith (fun part hm => ?_) (by simpa using hne)
    obtain ⟨n, -, rfl⟩ := List.mem_map.1 hm
    exact Text.not_mem_ofNat (by decide)
  have hread : (numbers.map Text.ofNat).filterMap (fun entry => lineNumber? (trim entry)) = numbers := by
    rw [List.filterMap_map]
    refine (List.filterMap_congr fun n hn => ?_).trans List.filterMap_some
    have hblank : ∀ c ∈ Text.ofNat n, ¬ Text.isBlank c := fun c hc =>
      Text.not_isBlank_of_isDigit (Text.isDigit_of_mem_ofNat hc)
    rw [Function.comp_apply, Text.trim_of_not_isBlank hblank, lineNumber?_ofNat (h n hn)]
  rw [lineNumbers, hsplit, hread]
  exact ascends_foldr numbers

/-! ### Reading -/

/-- The byte offset of the selector of an expression that ends in `tail`. -/
def startOf (e tail : Text) : Nat :=
  if (trim tail).isEmpty then e.byteLength else e.byteLength - (Text.trimStart tail).byteLength

theorem parse?_unopened (h : '[' ∉ e) : parse? e = none := by
  rw [parse?, Text.breakAt_eq_none h]
  rfl

theorem parse?_unclosed (hhint : '[' ∉ hint) (hrest : ']' ∉ rest) : parse? (hint ++ '[' :: rest) = none := by
  rw [parse?, Text.breakAt_append hhint]
  show Text.breakAt ']' rest >>= _ = none
  rw [Text.breakAt_eq_none hrest]
  rfl

/-- What is made of a text with both brackets. -/
theorem parse?_parts (hhint : '[' ∉ hint) (hinner : ']' ∉ inner) (he : e = hint ++ '[' :: (inner ++ ']' :: rest)) :
    parse? e = if inner.allBlank then none
      else some ⟨trim hint, trim inner, (splitLines rest).1, trim (splitLines rest).2,
        startOf e (splitLines rest).2⟩ := by
  rw [parse?, he, Text.breakAt_append hhint]
  show Text.breakAt ']' (inner ++ ']' :: rest) >>= _ = _
  rw [Text.breakAt_append hinner]
  rfl

theorem brackets_cases (e : Text) :
    '[' ∉ e ∨ (∃ hint rest : Text, e = hint ++ '[' :: rest ∧ '[' ∉ hint ∧ ']' ∉ rest) ∨
      ∃ hint inner rest : Text, e = hint ++ '[' :: (inner ++ ']' :: rest) ∧ '[' ∉ hint ∧ ']' ∉ inner := by
  by_cases hopen : '[' ∈ e
  · obtain ⟨hint, after, rfl, hhint⟩ := List.eq_append_cons_of_mem hopen
    by_cases hclose : ']' ∈ after
    · obtain ⟨inner, rest, rfl, hinner⟩ := List.eq_append_cons_of_mem hclose
      exact .inr (.inr ⟨hint, inner, rest, rfl, hhint, hinner⟩)
    · exact .inr (.inl ⟨hint, after, rfl, hhint, hclose⟩)
  · exact .inl hopen

/-- A text is no directive without a `[`, without a `]` after the first one, or with nothing between the two. -/
theorem parse?_eq_none_iff :
    parse? e = none ↔ '[' ∉ e ∨ (∃ hint rest : Text, e = hint ++ '[' :: rest ∧ '[' ∉ hint ∧ ']' ∉ rest) ∨
      ∃ hint inner rest : Text, e = hint ++ '[' :: (inner ++ ']' :: rest) ∧ '[' ∉ hint ∧ ']' ∉ inner ∧
        inner.allBlank := by
  constructor
  · intro h
    rcases brackets_cases e with hopen | hclose | ⟨hint, inner, rest, he, hhint, hinner⟩
    · exact .inl hopen
    · exact .inr (.inl hclose)
    · refine .inr (.inr ⟨hint, inner, rest, he, hhint, hinner, ?_⟩)
      rw [parse?_parts hhint hinner he] at h
      split at h
      next hblank => exact hblank
      next => cases h
  · rintro (hopen | ⟨hint, rest, rfl, hhint, hrest⟩ | ⟨hint, inner, rest, he, hhint, hinner, hblank⟩)
    · exact parse?_unopened hopen
    · exact parse?_unclosed hhint hrest
    · rw [parse?_parts hhint hinner he, if_pos hblank]

theorem parse?_eq_some (h : parse? e = some d) :
    ∃ hint inner rest : Text, e = hint ++ '[' :: (inner ++ ']' :: rest) ∧ '[' ∉ hint ∧ ']' ∉ inner ∧
      d = ⟨trim hint, trim inner, (splitLines rest).1, trim (splitLines rest).2, startOf e (splitLines rest).2⟩ := by
  rcases brackets_cases e with hopen | ⟨hint, rest, rfl, hhint, hrest⟩ | ⟨hint, inner, rest, he, hhint, hinner⟩
  · rw [parse?_unopened hopen] at h
    cases h
  · rw [parse?_unclosed hhint hrest] at h
    cases h
  · refine ⟨hint, inner, rest, he, hhint, hinner, ?_⟩
    rw [parse?_parts hhint hinner he] at h
    split at h
    · cases h
    · exact (Option.some.inj h).symm

/-! ### Line lists -/

theorem splitLines_listed (h : ')' ∉ list) (tail : Text) :
    splitLines ('(' :: (list ++ ')' :: tail)) = (lineNumbers list, tail) := by
  rw [splitLines, Text.breakAt_append h]

theorem splitLines_unclosed (h : ')' ∉ list) : splitLines ('(' :: list) = ([], '(' :: list) := by
  rw [splitLines, Text.breakAt_eq_none h]

theorem splitLines_of_head? (h : rest.head? ≠ some '(') : splitLines rest = ([], rest) := by
  unfold splitLines
  split
  · exact absurd rfl h
  · rfl

/-- The list as it is written. -/
def listOf (numbers : List Nat) : Text :=
  if numbers.isEmpty then [] else '(' :: Text.joinWith [','] (numbers.map Text.ofNat) ++ [')']

theorem write_eq (language path : Text) (numbers : List Nat) (selector : Text) :
    write language path numbers selector =
      language ++ '[' :: (path ++ ']' :: (listOf numbers ++ ' ' :: selector)) := by
  simp [write, listOf]

/-- A list that was written is read, and the blank after it begins the selector. -/
theorem splitLines_listOf (h : ∀ n ∈ numbers, n ≤ maxLine) (selector : Text) :
    ∃ lines, splitLines (listOf numbers ++ ' ' :: selector) = (lines, ' ' :: selector) ∧ Ascends lines numbers := by
  by_cases hne : numbers = []
  · subst hne
    exact ⟨[], splitLines_of_head? (by simp [listOf]), .nil, fun _ => Iff.rfl⟩
  · have hlist : listOf numbers ++ ' ' :: selector =
        '(' :: (Text.joinWith [','] (numbers.map Text.ofNat) ++ ')' :: ' ' :: selector) := by
      simp [listOf, hne]
    have hclose : ')' ∉ Text.joinWith [','] (numbers.map Text.ofNat) := by
      intro hm
      rcases Text.mem_joinWith hm with hm | ⟨part, hpart, hm⟩
      · exact absurd hm (by decide)
      · obtain ⟨n, -, rfl⟩ := List.mem_map.1 hpart
        exact Text.not_mem_ofNat (by decide) hm
    exact ⟨_, by rw [hlist, splitLines_listed hclose], ascends_lineNumbers hne h⟩

/-! ### Reading what was written -/

/-- What a directive with the given parts asks for; the first character of the selector gives the mode. -/
structure Means (d : Directive) (language path : Text) (numbers : List Nat) (selector : Text) : Prop where
  language_eq : d.language = language
  path_eq : d.path = path
  highlights : Ascends d.highlights numbers
  selector_eq : d.selector = selector
  outline : ∀ pattern, selector = '=' :: pattern → d.mode = .outline ∧ d.memberPattern = trim pattern
  content : ∀ pattern, selector = '-' :: pattern → d.mode = .content ∧ d.memberPattern = trim pattern
  full : selector.head? ≠ some '=' → selector.head? ≠ some '-' → d.mode = .full ∧ d.memberPattern = selector

theorem Means.of_parts (hlines : Ascends d.highlights numbers) :
    Means d d.language d.path numbers d.selector where
  language_eq := rfl
  path_eq := rfl
  highlights := hlines
  selector_eq := rfl
  outline := by
    intro pattern h
    have hmode : d.mode = .outline := by rw [mode, h]; rfl
    exact ⟨hmode, by rw [memberPattern, hmode, h]; rfl⟩
  content := by
    intro pattern h
    have hmode : d.mode = .content := by rw [mode, h]; rfl
    exact ⟨hmode, by rw [memberPattern, hmode, h]; rfl⟩
  full := by
    intro houtline hcontent
    have hmode : d.mode = .full := by
      unfold mode
      split
      next h => exact absurd (by rw [h]; rfl) houtline
      next h => exact absurd (by rw [h]; rfl) hcontent
      next => rfl
    exact ⟨hmode, by rw [memberPattern, hmode]⟩

theorem parse?_write (hlanguage : trim language = language) (hopen : '[' ∉ language) (hpath : trim path = path)
    (hne : path ≠ []) (hclose : ']' ∉ path) (hnumbers : ∀ n ∈ numbers, n ≤ maxLine)
    (hselector : trim selector = selector) :
    ∃ d, parse? (write language path numbers selector) = some d ∧ d.Means language path numbers selector := by
  obtain ⟨lines, hsplit, hlines⟩ := splitLines_listOf hnumbers selector
  have hblank : ¬ path.allBlank := fun h => hne (by rw [← hpath, Text.trim_of_allBlank h])
  have hparse := parse?_parts hopen hclose (write_eq language path numbers selector)
  rw [if_neg hblank, hsplit, hlanguage, hpath, Text.trim_cons_blank (by decide), hselector] at hparse
  exact ⟨_, hparse, .of_parts hlines⟩

theorem parse?_unclosed_list (h : parse? (hint ++ '[' :: (inner ++ ']' :: '(' :: list)) = some d) (hhint : '[' ∉ hint)
    (hinner : ']' ∉ inner) (hlist : ')' ∉ list) : d.highlights = [] ∧ d.selector = trim ('(' :: list) := by
  rw [parse?_parts hhint hinner rfl, splitLines_unclosed hlist] at h
  split at h
  · cases h
  · rw [← Option.some.inj h]
    exact ⟨rfl, rfl⟩

/-- A directive that is written is read back, and only texts without a path in brackets are refused; a line list that
nothing closes is part of the selector. -/
theorem parse?_inverts_write :
    (∀ (language path : Text) (numbers : List Nat) (selector : Text), trim language = language → '[' ∉ language →
      trim path = path → path ≠ [] → ']' ∉ path → (∀ n ∈ numbers, n ≤ maxLine) → trim selector = selector →
        ∃ d, parse? (write language path numbers selector) = some d ∧ d.Means language path numbers selector) ∧
    (∀ e : Text, parse? e = none ↔
      '[' ∉ e ∨ (∃ hint rest : Text, e = hint ++ '[' :: rest ∧ '[' ∉ hint ∧ ']' ∉ rest) ∨
        ∃ hint inner rest : Text, e = hint ++ '[' :: (inner ++ ']' :: rest) ∧ '[' ∉ hint ∧ ']' ∉ inner ∧
          inner.allBlank) ∧
    (∀ (hint inner list : Text) (d : Directive), parse? (hint ++ '[' :: (inner ++ ']' :: '(' :: list)) = some d →
      '[' ∉ hint → ']' ∉ inner → ')' ∉ list → d.highlights = [] ∧ d.selector = trim ('(' :: list)) := by
  refine ⟨?_, fun e => parse?_eq_none_iff, fun hint inner list d => parse?_unclosed_list⟩
  intro language path numbers selector hlanguage hopen hpath hne hclose hnumbers hselector
  exact parse?_write hlanguage hopen hpath hne hclose hnumbers hselector

/-- Brackets of the other kind in the language and in the path, lines in no order, and a selector with brackets; and a
list that nothing closes. -/
theorem parse?_inverts_write_brackets :
    write "cs]".toList "a[0.cs".toList [7, 3, 7] "-Run(int) [x]".toList =
        "cs][a[0.cs](7,3,7) -Run(int) [x]".toList ∧
      (∃ d, parse? (write "cs]".toList "a[0.cs".toList [7, 3, 7] "-Run(int) [x]".toList) = some d ∧
        d.Means "cs]".toList "a[0.cs".toList [7, 3, 7] "-Run(int) [x]".toList) ∧
      ∃ d, parse? "[a](1,2 Run".toList = some d ∧ d.highlights = [] ∧ d.selector = "(1,2 Run".toList := by
  obtain ⟨hwrite, -, hlist⟩ := parse?_inverts_write
  refine ⟨by decide, ?_, _, rfl, ?_⟩
  · exact hwrite _ _ _ _ (by decide) (by decide) (by decide) (by decide) (by decide) (by decide) (by decide)
  · exact hlist [] "a".toList "1,2 Run".toList _ rfl (by decide) (by decide) (by decide)

end Directive

end Excerpt
