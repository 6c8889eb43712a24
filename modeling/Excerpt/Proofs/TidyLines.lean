import Excerpt.Proofs.VisibleText

/-!
# Lines without padding

Blank characters and semicolons at the ends of a line are padding: they open and close nothing. `tidy` removes them, and
with them the lines that hold nothing else. `skimLines` is the scanner without rows and columns; it gives the kinds of
the braces (`braceKinds`), and it reads tidied lines like the lines themselves (`braceKinds_tidy`). Whatever only moves
padding about leaves the tidied lines alone: dropping blank lines at the ends, removing indentation, trimming, and
cutting a text into lines. So it leaves the kinds of the braces alone.
-/

namespace Excerpt

namespace Snippet
open Text (isBlank)
variable {before t u : Text} {context context' : Context} {c : Char} {lines lines' : List Text}

/-! ### Stripping lines -/

/-- The line without the characters at its ends that satisfy `p`, if it has any others. -/
def strip (p : Char → Bool) (line : Text) : List Text :=
  if line.all p then [] else [Text.dropEndWhile p (line.dropWhile p)]

section
variable {p : Char → Bool}

theorem strip_of_all (h : t.all p) : strip p t = [] := if_pos h

theorem strip_all_append (h : t.all p) (u : Text) : strip p (t ++ u) = strip p u := by
  unfold strip
  rw [List.all_append, h, Bool.true_and, List.dropWhile_append_of_pos (List.all_eq_true.1 h)]

theorem strip_append_all (h : u.all p) (t : Text) : strip p (t ++ u) = strip p t := by
  unfold strip
  rw [List.all_append, h, Bool.and_true]
  by_cases ht : t.all p
  · rw [if_pos ht, if_pos ht]
  · have hne : (t.dropWhile p).isEmpty = false := by
      rw [List.isEmpty_eq_false_iff]
      intro hnil
      exact ht (List.all_eq_true.2 (List.dropWhile_eq_nil_iff.1 hnil))
    have hdrop : (t ++ u).dropWhile p = t.dropWhile p ++ u := by
      rw [List.dropWhile_append, hne]
      rfl
    have hu : ∀ c ∈ u.reverse, p c := fun c hc => List.all_eq_true.1 h c (List.mem_reverse.1 hc)
    rw [if_neg ht, if_neg ht, hdrop, Text.dropEndWhile, Text.dropEndWhile, List.reverse_append,
      List.dropWhile_append_of_pos hu]

/-- A line is what is left of it with such characters around it. -/
theorem exists_strip (h : t.all p = false) :
    ∃ lead middle trail : Text, t = lead ++ (middle ++ trail) ∧ lead.all p ∧ trail.all p ∧ strip p t = [middle] := by
  obtain ⟨trail, hrest, htrail⟩ := Text.exists_dropEndWhile p (t.dropWhile p)
  refine ⟨t.takeWhile p, Text.dropEndWhile p (t.dropWhile p), trail, ?_, ?_, List.all_eq_true.2 htrail, ?_⟩
  · rw [← hrest, List.takeWhile_append_dropWhile]
  · exact List.all_eq_true.2 fun c hc => List.mem_takeWhile_imp hc
  · simp [strip, h]

theorem skipsBlank_strip (hp : ∀ c, isBlank c → p c) : SkipsBlank (strip p) :=
  have hall : ∀ t : Text, t.allBlank → t.all p := fun _ h =>
    List.all_eq_true.2 fun c hc => hp c (List.all_eq_true.1 h c hc)
  ⟨fun t h => strip_of_all (hall t h), fun t u h => strip_append_all (hall u h) t,
    fun t u h => strip_all_append (hall t h) u⟩

end

/-! ### Padding -/

def isPadding (c : Char) : Bool := isBlank c || c == ';'

/-- Nothing but padding. -/
def isIdle (t : Text) : Bool := t.all isPadding

/-- The line without padding at its ends, if it has anything else. -/
def core (line : Text) : List Text := strip isPadding line

def tidy (lines : List Text) : List Text := lines.flatMap core

theorem skipsBlank_core : SkipsBlank core := skipsBlank_strip fun c h => by simp [isPadding, h]

theorem ne_of_isPadding (h : isPadding c) {d : Char} (hd : isPadding d = false) : c ≠ d := by
  rintro rfl
  rw [h] at hd
  cases hd

/-! ### The scanner without rows and columns -/

/-- Scans the rest of a line for the kinds of the braces of the code, and gives the context at its end. -/
def skim (before : Text) (context : Context) : Text → List Bool × Context
  | [] => ([], context)
  | c :: rest =>
    let (kinds, final) := skim (c :: before) (context.next before c) rest
    if context.isCode && (c == '{' || c == '}') then ((c == '{') :: kinds, final) else (kinds, final)

def skimLines (context : Context) : List Text → List Bool
  | [] => []
  | line :: rest =>
    let (kinds, context) := skim [] context.atLineStart line
    kinds ++ skimLines context rest

/-- For each brace of the code, whether it opens. -/
def braceKinds (lines : List Text) : List Bool := (codeBraces lines).map (·.isOpening)

theorem skim_eq (row : Nat) (before : Text) (column : Nat) (context : Context) (t : Text) :
    skim before context t =
      ((scanLine row before column context t).1.map (·.isOpening), (scanLine row before column context t).2) := by
  induction t generalizing before column context with
  | nil => rfl
  | cons c t ih =>
    rw [skim, scanLine, ih (c :: before) (column + c.utf8Size)]
    dsimp only
    split <;> rfl

theorem skimLines_eq (row : Nat) (context : Context) (lines : List Text) :
    skimLines context lines = (scanLines row context lines).map (·.isOpening) := by
  induction lines generalizing row context with
  | nil => rfl
  | cons line rest ih =>
    rw [skimLines, scanLines, skim_eq row [] 0]
    dsimp only
    rw [List.map_append, ih (row + 1)]

theorem braceKinds_eq (lines : List Text) : braceKinds lines = skimLines .code lines :=
  (skimLines_eq 0 .code lines).symm

theorem skim_append (before : Text) (context : Context) (t u : Text) :
    skim before context (t ++ u) =
      ((skim before context t).1 ++ (skim (t.reverse ++ before) (skim before context t).2 u).1,
        (skim (t.reverse ++ before) (skim before context t).2 u).2) := by
  induction t generalizing before context with
  | nil => rfl
  | cons c t ih =>
    rw [List.cons_append, skim, skim, ih, List.reverse_cons, List.append_assoc]
    dsimp only
    split <;> rfl

/-! ### Padding changes nothing -/

theorem Context.atLineStart_atLineStart (context : Context) :
    context.atLineStart.atLineStart = context.atLineStart := by
  cases context <;> rfl

theorem Context.atLineStart_next_padding (h : isPadding c) (before : Text) (context : Context) :
    (context.next before c).atLineStart = context.atLineStart := by
  have h₁ : c ≠ '/' := ne_of_isPadding h (by decide)
  have h₂ : c ≠ '*' := ne_of_isPadding h (by decide)
  have h₃ : c ≠ '"' := ne_of_isPadding h (by decide)
  have h₄ : c ≠ '\'' := ne_of_isPadding h (by decide)
  have h₅ : c ≠ '\\' := ne_of_isPadding h (by decide)
  cases context <;> simp [Context.next, Context.afterCode, Context.atLineStart, h₁, h₂, h₃, h₄, h₅]

/-- A context in which a line can start goes on through padding. -/
theorem Context.next_padding (h : isPadding c) (hstart : context.atLineStart = context) (before : Text) :
    context.next before c = context := by
  have h₁ : c ≠ '/' := ne_of_isPadding h (by decide)
  have h₂ : c ≠ '*' := ne_of_isPadding h (by decide)
  have h₃ : c ≠ '"' := ne_of_isPadding h (by decide)
  have h₄ : c ≠ '\'' := ne_of_isPadding h (by decide)
  cases context <;> simp [Context.atLineStart] at hstart <;>
    simp [Context.next, Context.afterCode, h₁, h₂, h₃, h₄]

theorem skim_cons_padding (h : isPadding c) (before : Text) (context : Context) (t : Text) :
    skim before context (c :: t) = skim (c :: before) (context.next before c) t := by
  have h₁ : c ≠ '{' := ne_of_isPadding h (by decide)
  have h₂ : c ≠ '}' := ne_of_isPadding h (by decide)
  simp [skim, h₁, h₂]

theorem skim_idle (h : isIdle t) (before : Text) (context : Context) :
    (skim before context t).1 = [] ∧ (skim before context t).2.atLineStart = context.atLineStart := by
  induction t generalizing before context with
  | nil => exact ⟨rfl, rfl⟩
  | cons c t ih =>
    obtain ⟨hc, ht⟩ := Bool.and_eq_true_iff.1 h
    rw [skim_cons_padding hc, ← Context.atLineStart_next_padding hc before context]
    exact ih ht _ _

theorem skim_idle_append (h : isIdle t) (hstart : context.atLineStart = context) (before u : Text) :
    skim before context (t ++ u) = skim (t.reverse ++ before) context u := by
  induction t generalizing before with
  | nil => rfl
  | cons c t ih =>
    obtain ⟨hc, ht⟩ := Bool.and_eq_true_iff.1 h
    rw [List.cons_append, skim_cons_padding hc, Context.next_padding hc hstart, ih ht, List.reverse_cons,
      List.append_assoc]
    rfl

theorem opensVerbatim_append_idle (h : isIdle t) (before : Text) :
    opensVerbatim (before ++ t) = opensVerbatim before := by
  have hne : ∀ d, isPadding d = false → t.head? ≠ some d := by
    intro d hd hhead
    have hp : isPadding d := List.all_eq_true.1 h d (List.mem_of_head? hhead)
    rw [hp] at hd
    cases hd
  rw [Bool.eq_iff_iff]
  cases before with
  | nil =>
    cases t with
    | nil => rfl
    | cons d t =>
      have h₁ : d ≠ '@' := fun hd => hne '@' (by decide) (congrArg some hd)
      have h₂ : d ≠ '$' := fun hd => hne '$' (by decide) (congrArg some hd)
      simp [h₁, h₂, opensVerbatim]
  | cons c before =>
    rw [List.cons_append, opensVerbatim_cons, opensVerbatim_cons]
    cases before with
    | nil => simp [hne '@' (by decide)]
    | cons d before => simp

/-- What stands before the padding at the start of a line opens nothing. -/
theorem skim_before_idle (h : isIdle u) (before : Text) (context : Context) (t : Text) :
    skim (before ++ u) context t = skim before context t := by
  induction t generalizing before context with
  | nil => rfl
  | cons c t ih =>
    have hnext : context.next (before ++ u) c = context.next before c := by
      cases context <;> simp [Context.next, Context.afterCode, opensVerbatim_append_idle h]
    rw [skim, skim, hnext, ← List.cons_append, ih]

theorem skim_core {lead trail : Text} (hlead : isIdle lead) (htrail : isIdle trail)
    (hstart : context.atLineStart = context) (middle : Text) :
    (skim [] context (lead ++ (middle ++ trail))).1 = (skim [] context middle).1 ∧
      (skim [] context (lead ++ (middle ++ trail))).2.atLineStart = (skim [] context middle).2.atLineStart := by
  have hlead' : isIdle lead.reverse := by rw [isIdle, List.all_reverse]; exact hlead
  have hskip : skim [] context (lead ++ (middle ++ trail)) = skim [] context (middle ++ trail) := by
    rw [skim_idle_append hlead hstart, List.append_nil]
    exact skim_before_idle hlead' [] context _
  obtain ⟨hkinds, hfinal⟩ := skim_idle htrail (middle.reverse ++ []) (skim [] context middle).2
  rw [hskip, skim_append]
  exact ⟨by rw [hkinds, List.append_nil], hfinal⟩

theorem skimLines_tidy (h : context.atLineStart = context'.atLineStart) (lines : List Text) :
    skimLines context' (tidy lines) = skimLines context lines := by
  -- the two contexts need only agree where the next line starts
  induction lines generalizing context context' with
  | nil => rfl
  | cons line rest ih =>
    have htidy : tidy (line :: rest) = core line ++ tidy rest := List.flatMap_cons
    cases hidle : isIdle line with
    | true =>
      obtain ⟨hkinds, hfinal⟩ := skim_idle hidle [] context.atLineStart
      rw [htidy, core, strip_of_all hidle, List.nil_append, skimLines]
      dsimp only
      rw [hkinds, List.nil_append]
      exact ih (by rw [hfinal, Context.atLineStart_atLineStart, h])
    | false =>
      obtain ⟨lead, middle, trail, hline, hlead, htrail, hcore⟩ := exists_strip hidle
      obtain ⟨hkinds, hfinal⟩ := skim_core hlead htrail (Context.atLineStart_atLineStart context) middle
      rw [htidy, core, hcore, List.singleton_append, skimLines, skimLines]
      dsimp only
      rw [← h, hline, hkinds, ih hfinal]

theorem braceKinds_tidy (lines : List Text) : braceKinds (tidy lines) = braceKinds lines := by
  rw [braceKinds_eq, braceKinds_eq, skimLines_tidy rfl]

theorem braceKinds_congr (h : tidy lines = tidy lines') : braceKinds lines = braceKinds lines' := by
  rw [← braceKinds_tidy lines, h, braceKinds_tidy]

/-! ### What moves padding only -/

theorem tidy_append (lines lines' : List Text) : tidy (lines ++ lines') = tidy lines ++ tidy lines' :=
  List.flatMap_append

theorem tidy_singleton (line : Text) : tidy [line] = core line := List.flatMap_singleton ..

theorem tidy_dropWhile (lines : List Text) : tidy (lines.dropWhile Text.allBlank) = tidy lines :=
  skipsBlank_core.flatMap_dropWhile lines

theorem tidy_dropBlankEnds (lines : List Text) : tidy (dropBlankEnds lines) = tidy lines :=
  skipsBlank_core.flatMap_dropBlankEnds lines

theorem tidy_lines_eq (t : Text) : tidy t.lines = tidy (wholePart t).lines ++ core (lastLine t) :=
  skipsBlank_core.flatMap_lines_eq t

theorem tidy_lines_of_not_mem (h : '\n' ∉ t) : tidy t.lines = core t := skipsBlank_core.flatMap_lines_of_not_mem h

theorem tidy_lines_lineFeed (t u : Text) : tidy (Text.lines (t ++ '\n' :: u)) = tidy t.lines ++ tidy u.lines :=
  skipsBlank_core.flatMap_lines_lineFeed t u

end Snippet

end Excerpt
