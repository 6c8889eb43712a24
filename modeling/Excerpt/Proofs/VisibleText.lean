import Excerpt.Proofs.BracePlaces
import Excerpt.Proofs.CommonIndent

/-!
# What a snippet keeps

`Text.squeeze` is the sequence of the characters of a text that are not blank. Cutting a text into lines, dropping blank
lines, trimming and removing indentation leave it as it is, so a snippet of a whole span has the visible text of the
span, and a snippet of its content that of what stands between its outer braces (`squeeze_extractSpan`).
-/

namespace Excerpt

namespace Text
variable {t u : Text}

/-! ### Bytes -/

theorem takeBytes_zero (t : Text) : takeBytes 0 t = [] := by
  cases t with
  | nil => rfl
  | cons c t =>
    have hc := c.utf8Size_pos
    rw [takeBytes, if_neg (by omega)]

theorem takeBytes_append (t u : Text) : takeBytes t.byteLength (t ++ u) = t := by
  induction t with
  | nil => exact takeBytes_zero u
  | cons c t ih =>
    rw [List.cons_append, takeBytes, byteLength_cons, if_pos (Nat.le_add_right _ _), Nat.add_sub_cancel_left, ih]

theorem dropBytes_append (t u : Text) : dropBytes t.byteLength (t ++ u) = u := by
  have h := takeBytes_append_dropBytes t.byteLength (t ++ u)
  rw [takeBytes_append] at h
  exact List.append_cancel_left h

theorem slice_append (t m u : Text) : slice t.byteLength (t.byteLength + m.byteLength) (t ++ (m ++ u)) = m := by
  rw [slice, dropBytes_append, Nat.add_sub_cancel_left, takeBytes_append]

theorem slice_eq_nil {start stop : Nat} (h : stop ≤ start) (t : Text) : slice start stop t = [] := by
  rw [slice, Nat.sub_eq_zero_of_le h, takeBytes_zero]

theorem isBoundary_zero (t : Text) : isBoundary 0 t = true := by rw [isBoundary]

theorem isBoundary_append (p u : Text) (n : Nat) : isBoundary (p.byteLength + n) (p ++ u) = isBoundary n u := by
  induction p with
  | nil => simp
  | cons c p ih =>
    have hc := c.utf8Size_pos
    obtain ⟨m, hm⟩ : ∃ m, c.utf8Size + byteLength p + n = m + 1 := ⟨c.utf8Size + byteLength p + n - 1, by omega⟩
    rw [List.cons_append, byteLength_cons, hm, isBoundary, if_pos (by omega), ← hm, Nat.add_assoc,
      Nat.add_sub_cancel_left, ih]

theorem isBoundary_byteLength_append (p u : Text) : isBoundary p.byteLength (p ++ u) = true := by
  have h := isBoundary_append p u 0
  rwa [Nat.add_zero, isBoundary_zero] at h

/-! ### Visible text -/

theorem squeeze_eq_nil_iff : t.squeeze = [] ↔ t.allBlank := by
  simp [squeeze, allBlank, List.filter_eq_nil_iff]

theorem squeeze_blank_append (h : t.allBlank) (u : Text) : squeeze (t ++ u) = squeeze u := by
  rw [squeeze_append, squeeze_eq_nil_iff.2 h, List.nil_append]

theorem squeeze_reverse (t : Text) : squeeze t.reverse = t.squeeze.reverse := List.filter_reverse ..

theorem squeeze_trimStart (t : Text) : (trimStart t).squeeze = t.squeeze := by
  have h := squeeze_blank_append (allBlank_indentation t) (trimStart t)
  rw [indentation_append_trimStart] at h
  exact h.symm

theorem squeeze_trimEnd (t : Text) : (trimEnd t).squeeze = t.squeeze := by
  have h : (trimStart t.reverse).squeeze = t.squeeze.reverse := by rw [squeeze_trimStart, squeeze_reverse]
  have hend : trimEnd t = (trimStart t.reverse).reverse := rfl
  rw [hend, squeeze_reverse, h, List.reverse_reverse]

theorem squeeze_trim (t : Text) : (trim t).squeeze = t.squeeze := by
  rw [trim, squeeze_trimEnd, squeeze_trimStart]

theorem exists_dropEndWhile (p : Char → Bool) (t : Text) :
    ∃ trail : Text, t = dropEndWhile p t ++ trail ∧ ∀ c ∈ trail, p c := by
  refine ⟨(t.reverse.takeWhile p).reverse, ?_, fun c hc => List.mem_takeWhile_imp (List.mem_reverse.1 hc)⟩
  rw [dropEndWhile, ← List.reverse_append, List.takeWhile_append_dropWhile, List.reverse_reverse]

theorem dropEndWhile_prefix_self (p : Char → Bool) (t : Text) : dropEndWhile p t <+: t := by
  obtain ⟨trail, ht, -⟩ := exists_dropEndWhile p t
  exact ⟨trail, ht.symm⟩

theorem exists_dropLineEnd (line : Text) : ∃ ending, line = dropLineEnd line ++ ending ∧ ending.allBlank := by
  unfold dropLineEnd
  split
  next t h => exact ⟨['\r', '\n'], by simpa using congrArg List.reverse h, by decide⟩
  next t _ h => exact ⟨['\n'], by simpa using congrArg List.reverse h, by decide⟩
  next => exact ⟨[], (List.append_nil line).symm, rfl⟩

theorem squeeze_dropLineEnd (line : Text) : (dropLineEnd line).squeeze = line.squeeze := by
  obtain ⟨ending, hline, hblank⟩ := exists_dropLineEnd line
  conv_rhs => rw [hline, squeeze_append, squeeze_eq_nil_iff.2 hblank, List.append_nil]

theorem squeeze_flatten (lines : List Text) : squeeze lines.flatten = lines.flatMap squeeze := List.filter_flatten

theorem flatMap_lines (t : Text) : t.lines.flatMap squeeze = t.squeeze := by
  have h : (t.rawLines.map dropLineEnd).flatMap squeeze = t.rawLines.flatMap squeeze := by
    rw [List.flatMap_map]
    exact List.flatMap_congr fun line _ => squeeze_dropLineEnd line
  rw [lines, h, ← squeeze_flatten, flatten_rawLines]

theorem squeeze_joinWith {sep : Text} (h : sep.allBlank) (lines : List Text) :
    squeeze (joinWith sep lines) = lines.flatMap squeeze := by
  fun_induction joinWith sep lines with
  | case1 => rfl
  | case2 t => simp
  | case3 t rest _ ih =>
    rw [squeeze_append, squeeze_append, squeeze_eq_nil_iff.2 h, List.append_nil, ih, List.flatMap_cons]

end Text

namespace Snippet
open Text (squeeze allBlank)
variable {lines : List Text} {t u m : Text}

/-! ### Shaping lines -/

/-- Dropping the blank lines at the ends keeps a middle part of the lines, here the images of a list under `f`. -/
theorem exists_dropBlankEnds_map {α : Type} (f : α → Text) (l : List α) :
    ∃ before middle after, l = before ++ (middle ++ after) ∧ dropBlankEnds (l.map f) = middle.map f ∧
      (∀ x ∈ before, (f x).allBlank) ∧ ∀ x ∈ after, (f x).allBlank := by
  let p : α → Bool := fun x => (f x).allBlank
  have hp : Text.allBlank ∘ f = p := rfl
  refine ⟨l.takeWhile p, ((l.dropWhile p).reverse.dropWhile p).reverse, ((l.dropWhile p).reverse.takeWhile p).reverse,
    ?_, ?_, ?_, ?_⟩
  · rw [← List.reverse_append, List.takeWhile_append_dropWhile, List.reverse_reverse, List.takeWhile_append_dropWhile]
  · rw [dropBlankEnds, List.dropWhile_map, ← List.map_reverse, List.dropWhile_map, ← List.map_reverse, hp]
  · intro x hx
    exact List.mem_takeWhile_imp (p := p) hx
  · intro x hx
    exact List.mem_takeWhile_imp (p := p) (List.mem_reverse.1 hx)

/-- What `f` makes of a line does not depend on blank text at its ends, and it makes nothing of a blank line. -/
structure SkipsBlank {α : Type} (f : Text → List α) : Prop where
  of_allBlank : ∀ t : Text, t.allBlank → f t = []
  append : ∀ t u : Text, u.allBlank → f (t ++ u) = f t
  prepend : ∀ t u : Text, t.allBlank → f (t ++ u) = f u

namespace SkipsBlank
variable {α : Type} {f : Text → List α}

theorem flatMap_eq_nil (hf : SkipsBlank f) (h : ∀ line ∈ lines, Text.allBlank line) : lines.flatMap f = [] :=
  List.flatMap_eq_nil_iff.2 fun line hm => hf.of_allBlank line (h line hm)

theorem flatMap_dropWhile (hf : SkipsBlank f) (lines : List Text) :
    (lines.dropWhile Text.allBlank).flatMap f = lines.flatMap f := by
  conv_rhs => rw [← List.takeWhile_append_dropWhile (p := Text.allBlank) (l := lines), List.flatMap_append]
  rw [hf.flatMap_eq_nil fun line hm => List.mem_takeWhile_imp hm, List.nil_append]

theorem flatMap_dropBlankEnds (hf : SkipsBlank f) (lines : List Text) :
    (dropBlankEnds lines).flatMap f = lines.flatMap f := by
  obtain ⟨before, middle, after, hl, hm, hb, ha⟩ := exists_dropBlankEnds_map id lines
  rw [List.map_id, List.map_id] at hm
  rw [hm, hl, List.flatMap_append, List.flatMap_append, hf.flatMap_eq_nil hb, hf.flatMap_eq_nil ha, List.nil_append,
    List.append_nil]

theorem flatMap_map {g : Text → Text} (h : ∀ line ∈ lines, f (g line) = f line) :
    (lines.map g).flatMap f = lines.flatMap f := by
  rw [List.flatMap_map]
  exact List.flatMap_congr h

theorem flatMap_dedent (hf : SkipsBlank f) (lines : List Text) : (dedent lines).flatMap f = lines.flatMap f := by
  refine flatMap_map fun line hm => ?_
  conv_rhs => rw [← List.take_append_drop ((commonIndent? lines).getD 0) line]
  rw [hf.prepend _ _ (allBlank_take_commonIndent hm)]

theorem trimEnd (hf : SkipsBlank f) (t : Text) : f t.trimEnd = f t := by
  obtain ⟨trail, ht, hblank⟩ := Text.exists_dropEndWhile Text.isBlank t
  conv_rhs => rw [ht, hf.append _ _ (List.all_eq_true.2 hblank)]
  rfl

theorem trim (hf : SkipsBlank f) (t : Text) : f t.trim = f t := by
  rw [Text.trim, hf.trimEnd]
  conv_rhs => rw [← Text.indentation_append_trimStart t, hf.prepend _ _ (Text.allBlank_indentation t)]

theorem flatMap_keepText (hf : SkipsBlank f) {g : Text → Text} (h : f (g t) = f t) :
    (keepText g t).flatMap f = f t := by
  unfold keepText
  split
  next hb => exact (hf.of_allBlank t hb).symm
  next => rw [List.flatMap_singleton, h]

theorem dropLineEnd (hf : SkipsBlank f) (line : Text) : f (Text.dropLineEnd line) = f line := by
  obtain ⟨ending, hline, hblank⟩ := Text.exists_dropLineEnd line
  conv_rhs => rw [hline, hf.append _ _ hblank]

theorem flatMap_lines (hf : SkipsBlank f) (t : Text) : t.lines.flatMap f = t.rawLines.flatMap f :=
  flatMap_map fun line _ => hf.dropLineEnd line

theorem flatMap_lines_of_not_mem (hf : SkipsBlank f) (h : '\n' ∉ t) : t.lines.flatMap f = f t := by
  rw [hf.flatMap_lines]
  by_cases ht : t = []
  · subst ht
    exact (hf.of_allBlank [] rfl).symm
  · rw [Text.rawLines_of_not_mem ht h, List.flatMap_singleton]

theorem flatMap_lines_append (hf : SkipsBlank f) (ht : t.WholeLines) (hu : '\n' ∉ u) :
    (Text.lines (t ++ u)).flatMap f = t.lines.flatMap f ++ f u := by
  rw [ht.lines_append, List.flatMap_append, hf.flatMap_lines_of_not_mem hu]

theorem flatMap_lines_eq (hf : SkipsBlank f) (t : Text) :
    t.lines.flatMap f = (wholePart t).lines.flatMap f ++ f (lastLine t) := by
  conv_lhs => rw [← wholePart_append_lastLine t, hf.flatMap_lines_append (wholeLines_wholePart t) (not_mem_lastLine t)]

/-- A line feed between two texts keeps their lines apart. -/
theorem flatMap_lines_lineFeed (hf : SkipsBlank f) (t u : Text) :
    (Text.lines (t ++ '\n' :: u)).flatMap f = t.lines.flatMap f ++ u.lines.flatMap f := by
  have hraw : Text.rawLines (lastLine t ++ '\n' :: u) = (lastLine t ++ ['\n']) :: u.rawLines :=
    Text.rawLines_append_lineFeed (not_mem_lastLine t) u
  rw [hf.flatMap_lines_eq t]
  conv_lhs =>
    rw [← wholePart_append_lastLine t, List.append_assoc, (wholeLines_wholePart t).lines_append, List.flatMap_append]
  rw [hf.flatMap_lines (lastLine t ++ '\n' :: u), hraw, List.flatMap_cons, hf.append _ _ (by decide),
    hf.flatMap_lines u, List.append_assoc]

/-- Lines that were joined by line feeds are the lines of the text. -/
theorem flatMap_lines_joinWith (hf : SkipsBlank f) (h : ∀ line ∈ lines, '\n' ∉ line) :
    (Text.lines (Text.joinWith ['\n'] lines)).flatMap f = lines.flatMap f := by
  fun_induction Text.joinWith ['\n'] lines with
  | case1 => rfl
  | case2 t => rw [hf.flatMap_lines_of_not_mem (h t List.mem_cons_self), List.flatMap_singleton]
  | case3 t rest _ ih =>
    obtain ⟨ht, hrest⟩ := List.forall_mem_cons.1 h
    rw [List.append_assoc, List.singleton_append, hf.flatMap_lines_lineFeed, hf.flatMap_lines_of_not_mem ht, ih hrest,
      List.flatMap_cons]

end SkipsBlank

theorem skipsBlank_squeeze : SkipsBlank squeeze where
  of_allBlank _ h := Text.squeeze_eq_nil_iff.2 h
  append t u h := by rw [Text.squeeze_append, Text.squeeze_eq_nil_iff.2 h, List.append_nil]
  prepend _ u h := Text.squeeze_blank_append h u

theorem squeeze_ofText (mode : Mode) (t : Text) :
    squeeze (ofText mode t) = (shape mode (dropBlankEnds t.lines)).flatMap squeeze := by
  rw [ofText, Text.squeeze_joinWith (by decide), skipsBlank_squeeze.flatMap_dedent]

/-- The lines of a text without the blank ones at its ends are those of the text without blank text at its ends. -/
theorem exists_lines_eq_dropBlankEnds (t : Text) :
    ∃ before middle after : Text, t = before ++ (middle ++ after) ∧ before.allBlank ∧ after.allBlank ∧
      middle.lines = dropBlankEnds t.lines := by
  obtain ⟨before, middle, after, hl, hm, hb, ha⟩ := exists_dropBlankEnds_map Text.dropLineEnd t.rawLines
  have hblank : ∀ raw : List Text, (∀ line ∈ raw, (Text.dropLineEnd line).allBlank) → Text.allBlank raw.flatten := by
    intro raw h
    rw [← Text.squeeze_eq_nil_iff, Text.squeeze_flatten, List.flatMap_eq_nil_iff]
    intro line hline
    rw [← Text.squeeze_dropLineEnd, Text.squeeze_eq_nil_iff]
    exact h line hline
  have hmiddle : Text.IsLines middle := by
    have h : Text.IsLines (middle ++ after) := (hl ▸ Text.isLines_rawLines t).right
    simpa using h.replace .nil fun _ => rfl
  refine ⟨before.flatten, middle.flatten, after.flatten, ?_, hblank before hb, hblank after ha, ?_⟩
  · rw [← List.flatten_append, ← List.flatten_append, ← hl, Text.flatten_rawLines]
  · rw [Text.lines, hmiddle.rawLines_flatten]
    exact hm.symm

/-! ### Content -/

theorem lastLine_of_wholeLines (h : t.WholeLines) : lastLine t = [] := by
  rcases h with rfl | h
  · rfl
  · obtain ⟨u, rfl⟩ := List.getLast?_eq_some_iff.1 h
    exact lastLine_lineFeed u

theorem squeeze_of_lines_cons {c : Char} (hc : Text.isBlank c = false) {rest : Text}
    (h : Text.lines (c :: u) = (c :: rest) :: lines) : squeeze u = squeeze rest ++ lines.flatMap squeeze := by
  have hvisible : ∀ v, squeeze (c :: v) = c :: squeeze v := fun v => List.filter_cons_of_pos (by simp [hc])
  have hall := Text.flatMap_lines (c :: u)
  rw [h, List.flatMap_cons, hvisible, hvisible] at hall
  exact (List.cons_inj_right _).1 hall.symm

/-- The line in which a brace stands. -/
theorem lines_append_brace (t : Text) (isOpening : Bool) (u : Text) :
    ∃ before rest after, Text.lines (t ++ braceChar isOpening :: u) =
      before ++ (lastLine t ++ braceChar isOpening :: rest) :: after ∧ before.length = t.count '\n' ∧
      squeeze u = squeeze rest ++ after.flatMap squeeze := by
  obtain ⟨whole, ht, hwhole, hlen⟩ := exists_append_lastLine t
  have hfeed : braceChar isOpening ≠ '\n' := by cases isOpening <;> decide
  have hreturn : braceChar isOpening ≠ '\r' := by cases isOpening <;> decide
  obtain ⟨rest, after, hlines, hline⟩ := lines_append_cons (not_mem_lastLine t) hfeed hreturn u
  refine ⟨whole.lines, rest, after, ?_, hlen, ?_⟩
  · conv_lhs => rw [ht, List.append_assoc, hwhole.lines_append, hline]
  · exact squeeze_of_lines_cons (by cases isOpening <;> rfl) hlines

theorem utf8Size_opening : '{'.utf8Size = 1 := rfl

section
variable {before after : List Text} {opening closing : Brace}

theorem flatMap_line_at {line : Text} {f : Text → List Text} (h : lines = before ++ line :: after) :
    ((lines.drop before.length).take 1).flatMap f = f line := by
  simp [h]

theorem content_of_none (h : firstOpening? lines = none ∨ lastClosing? lines = none) : content lines = [] := by
  unfold firstOpening? lastClosing? at h
  unfold content
  dsimp only
  split
  next ho hc =>
    rw [ho, hc] at h
    simp at h
  next => rfl

theorem content_of_row_gt (ho : firstOpening? lines = some opening) (hc : lastClosing? lines = some closing)
    (hlt : closing.row < opening.row) : content lines = [] := by
  unfold firstOpening? at ho
  unfold lastClosing? at hc
  unfold content
  simp only [ho, hc, if_neg (Nat.ne_of_gt hlt), if_pos hlt]

/-- The content between two braces of one line. -/
theorem content_of_row_eq {line : Text} (ho : firstOpening? lines = some opening)
    (hc : lastClosing? lines = some closing) (hrow : opening.row = closing.row)
    (hl : lines = before ++ line :: after) (hb : before.length = opening.row) :
    content lines = keepText Text.trim (Text.slice (opening.column + 1) closing.column line) := by
  unfold firstOpening? at ho
  unfold lastClosing? at hc
  unfold content
  simp only [ho, hc, if_pos hrow]
  rw [← hb, flatMap_line_at hl]

/-- The content between two braces of different lines. -/
theorem content_of_row_lt {first last : Text} {middle : List Text} (ho : firstOpening? lines = some opening)
    (hc : lastClosing? lines = some closing) (hl : lines = before ++ first :: (middle ++ last :: after))
    (hbo : before.length = opening.row) (hbc : (before ++ first :: middle).length = closing.row) :
    content lines = dropBlankEnds (keepText Text.trim (Text.dropBytes (opening.column + 1) first) ++ middle ++
      keepText Text.trimEnd (Text.takeBytes closing.column last)) := by
  have hlt : opening.row < closing.row := by
    rw [← hbo, ← hbc]
    simp
  have hl' : lines = (before ++ first :: middle) ++ last :: after := by simp [hl]
  have hmiddle : (lines.take closing.row).drop (opening.row + 1) = middle := by
    rw [hl', ← hbc, ← hbo, List.take_left]
    simp
  unfold firstOpening? at ho
  unfold lastClosing? at hc
  unfold content
  simp only [ho, hc, if_neg (Nat.ne_of_lt hlt), if_neg (Nat.lt_asymm hlt), hmiddle]
  rw [← hbo, ← hbc, flatMap_line_at hl, flatMap_line_at hl']

end

theorem content_of_reversed {q m u : Text} (ht : t = q ++ '}' :: (m ++ '{' :: u))
    (ho : firstOpening? t.lines = some (braceAt (q ++ '}' :: m) true))
    (hc : lastClosing? t.lines = some (braceAt q false)) : content t.lines = [] := by
  by_cases hm : '\n' ∈ m
  · have hlt : (braceAt q false).row < (braceAt (q ++ '}' :: m) true).row := by
      have := List.count_pos_iff.2 hm
      simp only [braceAt, List.count_append, List.count_cons]
      omega
    exact content_of_row_gt ho hc hlt
  · have hm' : '\n' ∉ '}' :: m := by simpa using hm
    have hrow : (braceAt (q ++ '}' :: m) true).row = (braceAt q false).row := by
      simp [braceAt, List.count_eq_zero.2 hm']
    obtain ⟨before, rest, after, hl, hb, -⟩ := lines_append_brace q false (m ++ '{' :: u)
    rw [content_of_row_eq ho hc hrow (ht ▸ hl) (hb.trans hrow.symm), Text.slice_eq_nil]
    · rfl
    · simp only [braceAt, lastLine_append_of_not_mem q hm', Text.byteLength_append]
      omega

section
variable {p : Text} (ht : t = p ++ '{' :: (m ++ '}' :: u))
  (ho : firstOpening? t.lines = some (braceAt p true))
  (hc : lastClosing? t.lines = some (braceAt (p ++ '{' :: m) false))
include ht ho hc

theorem content_of_line (hm : '\n' ∉ m) : content t.lines = keepText Text.trim m := by
  have hm' : '\n' ∉ '{' :: m := by simpa using hm
  have hrow : (braceAt p true).row = (braceAt (p ++ '{' :: m) false).row := by
    simp [braceAt, List.count_eq_zero.2 hm']
  obtain ⟨before, rest, after, hl, hb, -⟩ := lines_append_brace (p ++ '{' :: m) false u
  have ht' : t = (p ++ '{' :: m) ++ braceChar false :: u := by simp [ht, braceChar]
  rw [content_of_row_eq ho hc hrow (ht' ▸ hl) (hb.trans hrow.symm)]
  have hslice := Text.slice_append (lastLine p ++ ['{']) m (braceChar false :: rest)
  congr 1
  simpa [braceAt, lastLine_append_of_not_mem p hm', Nat.add_assoc, utf8Size_opening] using hslice

theorem flatMap_content_of_lines (hm : '\n' ∈ m) : (content t.lines).flatMap squeeze = squeeze m := by
  obtain ⟨whole, hsplit, hwhole, -⟩ := exists_append_lastLine m
  have hupper : Text.WholeLines (p ++ '{' :: whole) := by
    rcases hwhole with rfl | hlast
    · rw [List.nil_append] at hsplit
      exact absurd (hsplit ▸ hm) (not_mem_lastLine m)
    · refine .inr ?_
      rw [List.getLast?_append, List.getLast?_cons, hlast]
      rfl
  have hclosing : p ++ '{' :: m = (p ++ '{' :: whole) ++ lastLine m := by
    rw [List.append_assoc, List.cons_append, ← hsplit]
  have hcolumn : lastLine (p ++ '{' :: m) = lastLine m := by
    rw [hclosing, lastLine_append_of_not_mem _ (not_mem_lastLine m), lastLine_of_wholeLines hupper, List.nil_append]
  obtain ⟨before, rest, middle, hl, hb, hrest⟩ := lines_append_brace p true whole
  obtain ⟨final, after, -, hlast⟩ := lines_append_cons (c := '}') (not_mem_lastLine m) (by decide) (by decide) u
  have hlines : t.lines =
      before ++ (lastLine p ++ '{' :: rest) :: (middle ++ (lastLine m ++ '}' :: final) :: after) := by
    have ht' : t = (p ++ '{' :: whole) ++ (lastLine m ++ '}' :: u) := by
      rw [← List.append_assoc, ← hclosing, ht, List.append_assoc, List.cons_append]
    have hl' : Text.lines (p ++ '{' :: whole) = before ++ (lastLine p ++ '{' :: rest) :: middle := hl
    rw [ht', hupper.lines_append, hlast, hl', List.append_assoc, List.cons_append]
  have hrow : (before ++ (lastLine p ++ '{' :: rest) :: middle).length = (braceAt (p ++ '{' :: m) false).row := by
    have hcount : (p ++ '{' :: m).count '\n' = (p ++ '{' :: whole).count '\n' := by
      rw [hclosing, List.count_append, List.count_eq_zero.2 (not_mem_lastLine m), Nat.add_zero]
    rw [braceAt, hcount, ← hupper.length_lines]
    exact congrArg List.length hl.symm
  have hfirst : Text.dropBytes ((braceAt p true).column + 1) (lastLine p ++ '{' :: rest) = rest := by
    simpa [braceAt, utf8Size_opening] using Text.dropBytes_append (lastLine p ++ ['{']) rest
  have hfinal : Text.takeBytes (braceAt (p ++ '{' :: m) false).column (lastLine m ++ '}' :: final) = lastLine m := by
    rw [braceAt, hcolumn]
    exact Text.takeBytes_append _ _
  rw [content_of_row_lt ho hc hlines hb hrow, hfirst, hfinal, skipsBlank_squeeze.flatMap_dropBlankEnds,
    List.flatMap_append, List.flatMap_append, skipsBlank_squeeze.flatMap_keepText (Text.squeeze_trim _),
    skipsBlank_squeeze.flatMap_keepText (Text.squeeze_trimEnd _), ← hrest, ← Text.squeeze_append, ← hsplit]

theorem flatMap_content_of_between : (content t.lines).flatMap squeeze = squeeze m := by
  by_cases hm : '\n' ∈ m
  · exact flatMap_content_of_lines ht ho hc hm
  · rw [content_of_line ht ho hc hm, skipsBlank_squeeze.flatMap_keepText (Text.squeeze_trim m)]

end

/-- The content of a text is that of its interior. -/
theorem Interior.content {o : Option Text} (h : Interior t o) :
    (content t.lines).flatMap squeeze = squeeze (o.getD []) ∧ (o = none → content t.lines = []) := by
  have hnil : Snippet.content t.lines = [] → (Snippet.content t.lines).flatMap squeeze = squeeze (none.getD []) ∧
      ((none : Option Text) = none → Snippet.content t.lines = []) :=
    fun h => ⟨by rw [h]; rfl, fun _ => h⟩
  cases h with
  | noOpening ho => exact hnil (content_of_none (.inl ho))
  | noClosing hc => exact hnil (content_of_none (.inr hc))
  | reversed q m u ht ho hc => exact hnil (content_of_reversed ht ho hc)
  | between p m u ht ho hc => exact ⟨flatMap_content_of_between ht ho hc, fun h => nomatch h⟩

/-! ### Spans -/

/-- Where a brace stands in the text in whose lines it was found. -/
def Brace.offset (t : Text) (brace : Brace) : Nat :=
  Text.byteLength (t.rawLines.take brace.row).flatten + brace.column

theorem offset_braceAt (t : Text) (isOpening : Bool) (u : Text) :
    (braceAt t isOpening).offset (t ++ u) = t.byteLength := by
  obtain ⟨whole, ht, hwhole, hlen⟩ := exists_append_lastLine t
  have hraw : (t ++ u).rawLines.take (t.count '\n') = whole.rawLines := by
    have hsplit : t ++ u = whole ++ (lastLine t ++ u) := by rw [← List.append_assoc, ← ht]
    rw [hsplit, hwhole.rawLines_append, ← hlen, Text.lines, List.length_map, List.take_left]
  rw [Brace.offset, braceAt, hraw, Text.flatten_rawLines, ← Text.byteLength_append, ← ht]

/-- The span with its ends moved back into the source. -/
def clamp (source : Text) (span : Span) : Span :=
  let stop := min span.stop source.byteLength
  ⟨min span.start stop, stop⟩

/-- The source text of a span. -/
def sourceText (source : Text) (span : Span) : Text :=
  Text.slice (clamp source span).start (clamp source span).stop source

variable {source : Text} {span : Span}

theorem exists_spanText (hstart : Text.isBoundary (clamp source span).start source)
    (hstop : Text.isBoundary (clamp source span).stop source) :
    ∃ lead : Text, lead.allBlank ∧ spanText source span = lead ++ sourceText source span := by
  have hspan : spanText source span =
      if Text.allBlank (lastLine (Text.takeBytes (clamp source span).start source)) then
        lastLine (Text.takeBytes (clamp source span).start source) ++ sourceText source span
      else sourceText source span := by
    unfold spanText
    exact if_pos (Bool.and_eq_true_iff.2 ⟨hstart, hstop⟩)
  by_cases hlead : Text.allBlank (lastLine (Text.takeBytes (clamp source span).start source))
  · exact ⟨_, hlead, hspan.trans (if_pos hlead)⟩
  · exact ⟨[], rfl, hspan.trans (if_neg hlead)⟩

theorem ofText_content (t : Text) :
    squeeze (ofText .content t) = squeeze ((interior? t).getD []) ∧ (interior? t = none → ofText .content t = []) := by
  obtain ⟨before, middle, after, ht, hbefore, hafter, hlines⟩ := exists_lines_eq_dropBlankEnds t
  have hinterior : interior? t = interior? middle := by
    rw [ht, interior?_blank_append hbefore, interior?_append_blank hafter]
  obtain ⟨hvisible, hnone⟩ := (interior_interior? middle).content
  rw [squeeze_ofText, hinterior, ← hlines]
  refine ⟨hvisible, fun h => ?_⟩
  rw [ofText, ← hlines, shape, hnone h]
  rfl

/-- A text shows the interior of another one: what stands strictly between the first opening and the last closing brace
of its code. Where one of them is missing or they stand in the other order, there is nothing to show. -/
def ShowsInterior (t shown : Text) : Prop :=
  match firstOpening? t.lines, lastClosing? t.lines with
  | some opening, some closing =>
    if opening.offset t < closing.offset t then
      shown.squeeze = squeeze (Text.slice (opening.offset t + 1) (closing.offset t) t)
    else shown = []
  | _, _ => shown = []

theorem Interior.shows {o : Option Text} {shown : Text} (h : Interior t o)
    (hvisible : shown.squeeze = squeeze (o.getD [])) (hnone : o = none → shown = []) : ShowsInterior t shown := by
  unfold ShowsInterior
  cases h with
  | noOpening ho => simpa only [ho] using hnone rfl
  | noClosing hc => cases ho : firstOpening? t.lines <;> simpa only [ho, hc] using hnone rfl
  | reversed q m u ht ho hc =>
    have hopening : (braceAt (q ++ '}' :: m) true).offset t = (q ++ '}' :: m).byteLength := by
      rw [ht, ← List.cons_append, ← List.append_assoc]
      exact offset_braceAt _ _ _
    have hclosing : (braceAt q false).offset t = q.byteLength := by
      rw [ht]
      exact offset_braceAt _ _ _
    have hlt : ¬ (q ++ '}' :: m).byteLength < q.byteLength := by
      rw [Text.byteLength_append]
      omega
    simp only [ho, hc, hopening, hclosing, if_neg hlt]
    exact hnone rfl
  | between p m u ht ho hc =>
    have hopening : (braceAt p true).offset t = p.byteLength := by
      rw [ht]
      exact offset_braceAt _ _ _
    have hclosing : (braceAt (p ++ '{' :: m) false).offset t = p.byteLength + 1 + m.byteLength := by
      rw [ht, ← List.cons_append, ← List.append_assoc, offset_braceAt]
      simp [utf8Size_opening, Nat.add_assoc]
    have hlt : p.byteLength < p.byteLength + 1 + m.byteLength := by omega
    have hslice : Text.slice (p.byteLength + 1) (p.byteLength + 1 + m.byteLength) t = m := by
      rw [ht]
      simpa [utf8Size_opening] using Text.slice_append (p ++ ['{']) m ('}' :: u)
    simp only [ho, hc, hopening, hclosing, if_pos hlt, hslice]
    exact hvisible

/-- A snippet loses and invents no text: in full it has the visible text of its span, and its content has that of the
interior of the span. -/
theorem squeeze_extractSpan (hstart : Text.isBoundary (clamp source span).start source)
    (hstop : Text.isBoundary (clamp source span).stop source) :
    squeeze (extractSpan source .full span) = squeeze (sourceText source span) ∧
      ShowsInterior (sourceText source span) (extractSpan source .content span) := by
  obtain ⟨lead, hlead, hspan⟩ := exists_spanText hstart hstop
  constructor
  · rw [extractSpan, squeeze_ofText, shape, skipsBlank_squeeze.flatMap_dropBlankEnds, Text.flatMap_lines, hspan,
      Text.squeeze_blank_append hlead]
  · obtain ⟨hvisible, hnone⟩ := ofText_content (spanText source span)
    have hinterior : interior? (spanText source span) = interior? (sourceText source span) := by
      rw [hspan, interior?_blank_append hlead]
    rw [hinterior] at hvisible hnone
    exact (interior_interior? _).shows hvisible hnone

/-- A method after another one, with a brace in a string, one in a comment, and one that nothing closes. -/
def methodSource : Text :=
  "void A() \x7b\x7d\r\n\t int é()\r\n\t \x7b\r\n\t\treturn \"\x7d\";\n\t \x7d // \x7d\n\x7b".toList

/-- The method up to past the end of its source. Its first line is indented. -/
def methodSpan : Span := ⟨15, 60⟩

theorem squeeze_extractSpan_method :
    Text.isBoundary (clamp methodSource methodSpan).start methodSource ∧
      Text.isBoundary (clamp methodSource methodSpan).stop methodSource ∧
      squeeze (extractSpan methodSource .full methodSpan) = squeeze (sourceText methodSource methodSpan) ∧
      ShowsInterior (sourceText methodSource methodSpan) (extractSpan methodSource .content methodSpan) ∧
      squeeze (extractSpan methodSource .content methodSpan) = "return\"\x7d\";".toList := by
  have hstart : Text.isBoundary (clamp methodSource methodSpan).start methodSource := by decide +kernel
  have hstop : Text.isBoundary (clamp methodSource methodSpan).stop methodSource := by decide +kernel
  obtain ⟨hfull, hcontent⟩ := squeeze_extractSpan hstart hstop
  refine ⟨hstart, hstop, hfull, hcontent, ?_⟩
  have hopening : firstOpening? (sourceText methodSource methodSpan).lines = some ⟨1, 2, true⟩ := by decide +kernel
  have hclosing : lastClosing? (sourceText methodSource methodSpan).lines = some ⟨3, 2, false⟩ := by decide +kernel
  unfold ShowsInterior at hcontent
  simp only [hopening, hclosing] at hcontent
  rw [if_pos (by decide +kernel)] at hcontent
  exact hcontent.trans (by decide +kernel)

end Snippet

end Excerpt
