import Excerpt.Proofs.ByteBraces
import Excerpt.Proofs.NormalLines

/-!
# Extraction with checked slices

`extractSpan?` makes a snippet as `extractSpan` does, from slices that are checked: `Text.slice?` gives nothing unless
its two byte offsets are in order, in the text and between characters, and `rows?` likewise for lines. Braces are found
byte by byte. None of the checks ever fails, for any source, span and mode (`extractSpan?_eq`): the offsets of a span
are moved back and looked at first, and every brace stands in its line, at the column that is given for it
(`exists_of_mem_codeBraces`).
-/

namespace Excerpt

namespace Text
variable {t u : Text} {n start stop : Nat}

/-- The part of the text between two byte offsets, if these are in order, in the text and between characters. -/
def slice? (start stop : Nat) (t : Text) : Option Text :=
  if start ≤ stop ∧ stop ≤ t.byteLength ∧ isBoundary start t ∧ isBoundary stop t then some (slice start stop t)
  else none

theorem byteLength_takeBytes (h : isBoundary n t) : (takeBytes n t).byteLength = n := by
  induction t generalizing n with
  | nil => cases n <;> simp_all [isBoundary, takeBytes]
  | cons c t ih =>
    cases n with
    | zero => simp [takeBytes_zero]
    | succ n =>
      rw [isBoundary] at h
      split at h
      next hle =>
        rw [takeBytes, if_pos hle, byteLength_cons, ih h]
        omega
      next => cases h

theorem le_of_isBoundary (h : isBoundary n t) : n ≤ t.byteLength := by
  have hle := congrArg byteLength (takeBytes_append_dropBytes n t)
  rw [byteLength_append, byteLength_takeBytes h] at hle
  omega

theorem slice?_eq_some (hle : start ≤ stop) (hstart : isBoundary start t) (hstop : isBoundary stop t) :
    slice? start stop t = some (slice start stop t) :=
  if_pos ⟨hle, le_of_isBoundary hstop, hstart, hstop⟩

theorem slice?_append (p m u : Text) : slice? p.byteLength (p.byteLength + m.byteLength) (p ++ (m ++ u)) = some m := by
  have hstop : isBoundary (p.byteLength + m.byteLength) (p ++ (m ++ u)) := by
    rw [isBoundary_append, isBoundary_byteLength_append]
  rw [slice?_eq_some (Nat.le_add_right _ _) (isBoundary_byteLength_append p _) hstop, slice_append]

theorem slice?_of_prefix (h : u <+: t) : slice? 0 u.byteLength t = some u := by
  obtain ⟨v, rfl⟩ := h
  simpa using slice?_append [] u v

theorem slice?_rest (p m : Text) : slice? p.byteLength (p ++ m).byteLength (p ++ m) = some m := by
  simpa using slice?_append p m []

theorem slice?_takeBytes (h : isBoundary n t) : slice? 0 n t = some (takeBytes n t) := by
  have htake := slice?_of_prefix ⟨dropBytes n t, takeBytes_append_dropBytes n t⟩
  rwa [byteLength_takeBytes h] at htake

theorem slice?_dropBytes (h : isBoundary n t) : slice? n t.byteLength t = some (dropBytes n t) := by
  have hrest := slice?_rest (takeBytes n t) (dropBytes n t)
  rwa [takeBytes_append_dropBytes, byteLength_takeBytes h] at hrest

/-- Two offsets between characters part the text in three. -/
theorem exists_of_isBoundary (hle : start ≤ stop) (hstart : isBoundary start t) (hstop : isBoundary stop t) :
    ∃ p m u : Text, t = p ++ (m ++ u) ∧ start = p.byteLength ∧ stop = p.byteLength + m.byteLength := by
  have hp := byteLength_takeBytes hstart
  have hrest : isBoundary (stop - start) (dropBytes start t) := by
    rw [← isBoundary_append (takeBytes start t), takeBytes_append_dropBytes, hp, Nat.add_sub_cancel' hle]
    exact hstop
  refine ⟨takeBytes start t, takeBytes (stop - start) (dropBytes start t), dropBytes (stop - start) (dropBytes start t),
    ?_, hp.symm, ?_⟩
  · rw [takeBytes_append_dropBytes, takeBytes_append_dropBytes]
  · rw [hp, byteLength_takeBytes hrest, Nat.add_sub_cancel' hle]

end Text

namespace Snippet

/-! ### The checked functions -/

/-- The lines from number `start` up to number `stop`, if these are in order and there. -/
def rows? (start stop : Nat) (lines : List Text) : Option (List Text) :=
  if start ≤ stop ∧ stop ≤ lines.length then some ((lines.take stop).drop start) else none

/-- The text of a span. -/
def spanText? (source : Text) (span : Span) : Option Text :=
  let stop := min span.stop source.byteLength
  let start := min span.start stop
  if Text.isBoundary start source && Text.isBoundary stop source then do
    let above ← Text.slice? 0 start source
    let lineStart := (wholePart above).byteLength
    let lead ← Text.slice? lineStart start source
    if lead.allBlank then Text.slice? lineStart stop source else Text.slice? start stop source
  else some []

/-- The lines from the first to the last that is not blank. -/
def dropBlankEnds? (lines : List Text) : Option (List Text) :=
  match lines.findIdx? (!Text.allBlank ·), lines.reverse.findIdx? (!Text.allBlank ·) with
  | some first, some last => rows? first (lines.length - last) lines
  | _, _ => some []

def indentation? (line : Text) : Option Text := Text.slice? 0 (line.byteLength - line.trimStart.byteLength) line

/-- The lines up to the first arrow, or up to the semicolon that ends them. -/
def signature? : List Text → Option (List Text)
  | [] => some []
  | line :: rest =>
    match (beforeArrow? line).map Text.byteLength with
    | some arrow => do
      let head ← Text.slice? 0 arrow line
      return keepText Text.trimEnd head
    | none =>
      if rest.isEmpty then do
        let kept ← Text.slice? 0 (dropSemicolons line.trimEnd).byteLength line.trimEnd
        return [kept]
      else do
        let more ← signature? rest
        return line.trimEnd :: more

/-- The lines up to a brace, and with it. -/
def upTo? (brace : Brace) (lines : List Text) : Option (List Text) := do
  let above ← rows? 0 brace.row lines
  let line ← lines[brace.row]?
  let opened ← Text.slice? 0 (brace.column + 1) line
  return above ++ [opened]

/-- The head of a declaration and a stub for its body. -/
def outline? (lines : List Text) : Option (List Text) :=
  match lines with
  | [] => some []
  | first :: _ => do
    let indent ← indentation? first
    let head ← match (byteBraces lines).find? (·.isOpening) with
      | some brace => upTo? brace lines
      | none => (signature? lines).map (· ++ [indent ++ ['{']])
    return head ++ [indent ++ "    ".toList ++ elision, indent ++ ['}']]

/-- What stands between two braces, in one line or in several. -/
def between? (opening closing : Brace) (lines : List Text) : Option (List Text) :=
  let start := opening.column + 1
  if opening.row = closing.row then
    if closing.column ≤ start then some []
    else do
      let line ← lines[opening.row]?
      let inner ← Text.slice? start closing.column line
      return keepText Text.trim inner
  else if closing.row < opening.row then some []
  else do
    let first ← lines[opening.row]?
    let head ← Text.slice? start first.byteLength first
    let middle ← rows? (opening.row + 1) closing.row lines
    let last ← lines[closing.row]?
    let tail ← Text.slice? 0 closing.column last
    dropBlankEnds? (keepText Text.trim head ++ middle ++ keepText Text.trimEnd tail)

/-- What stands between the first opening and the last closing brace of the code. -/
def content? (lines : List Text) : Option (List Text) :=
  let braces := byteBraces lines
  match braces.find? (·.isOpening), braces.reverse.find? (fun b => !b.isOpening) with
  | some opening, some closing => between? opening closing lines
  | _, _ => some []

/-- The lines without the indentation that they share, which is measured on those that are not blank. -/
def dedent? (lines : List Text) : Option (List Text) := do
  let indents ← (lines.filter fun line => !line.allBlank).mapM indentation?
  let width := (indents.map List.length).min?.getD 0
  lines.mapM fun line => Text.slice? (Text.byteLength (line.take width)) line.byteLength line

/-- The lines as the mode shows them. -/
def shape? (mode : Mode) (lines : List Text) : Option (List Text) :=
  match mode with
  | .full => some lines
  | .outline => outline? lines
  | .content => content? lines

/-- The snippet of a span of a source. -/
def extractSpan? (source : Text) (mode : Mode) (span : Span) : Option Text := do
  let text ← spanText? source span
  let lines ← dropBlankEnds? text.lines
  let shown ← shape? mode lines
  let lines ← dedent? shown
  return Text.joinWith ['\n'] lines

/-- The snippet of several spans of a source. -/
def extractSpans? (source : Text) (mode : Mode) (spans : List Span) : Option Text := do
  let parts ← (orderSpans spans).mapM (extractSpan? source mode)
  return Text.joinWith ['\n', '\n'] parts

/-! ### Slices at the ends of a text, of the lines and of a line -/

variable {lines : List Text} {b : Brace}

theorem spanText?_eq (source : Text) (span : Span) : spanText? source span = some (spanText source span) := by
  rw [spanText?, spanText]
  split
  next h =>
    obtain ⟨hstart, hstop⟩ := Bool.and_eq_true_iff.1 h
    obtain ⟨p, m, u, hsource, hp, hm⟩ := Text.exists_of_isBoundary (Nat.min_le_right _ _) hstart hstop
    rw [hp, hm, hsource, Text.takeBytes_append, Text.slice_append, Text.slice?_of_prefix (List.prefix_append _ _)]
    have hlead : Text.slice? (wholePart p).byteLength p.byteLength (p ++ (m ++ u)) = some (lastLine p) := by
      have h := Text.slice?_append (wholePart p) (lastLine p) (m ++ u)
      rwa [← Text.byteLength_append, ← List.append_assoc, wholePart_append_lastLine] at h
    have hwide : Text.slice? (wholePart p).byteLength (p.byteLength + m.byteLength) (p ++ (m ++ u)) =
        some (lastLine p ++ m) := by
      have h := Text.slice?_append (wholePart p) (lastLine p ++ m) u
      rwa [Text.byteLength_append, ← Nat.add_assoc, ← Text.byteLength_append, List.append_assoc, ← List.append_assoc,
        wholePart_append_lastLine] at h
    simp only [Option.bind_eq_bind, Option.bind_some, hlead, hwide, Text.slice?_append]
    split <;> rfl
  next => rfl

theorem rows?_append (above mid below : List Text) :
    rows? above.length (above.length + mid.length) (above ++ (mid ++ below)) = some mid := by
  rw [rows?, if_pos ⟨Nat.le_add_right _ _, by simp⟩, ← List.append_assoc, ← List.length_append, List.take_left,
    List.drop_left]

theorem findIdx?_of_allBlank {above : List Text} {line : Text} (habove : ∀ l ∈ above, l.allBlank)
    (hline : line.allBlank = false) (below : List Text) :
    (above ++ line :: below).findIdx? (!Text.allBlank ·) = some above.length := by
  have hnone : above.findIdx? (!Text.allBlank ·) = none := List.findIdx?_eq_none_iff.2 fun l hl => by simp [habove l hl]
  rw [List.findIdx?_append, hnone, List.findIdx?_cons, hline]
  simp

theorem dropBlankEnds?_eq (lines : List Text) : dropBlankEnds? lines = some (dropBlankEnds lines) := by
  obtain ⟨above, mid, below, hl, hm, habove, hbelow⟩ := exists_dropBlankEnds_map id lines
  rw [List.map_id, List.map_id] at hm
  rcases List.eq_nil_or_concat mid with rfl | ⟨init, last, hmid⟩
  · have hnone : lines.findIdx? (!Text.allBlank ·) = none := by
      refine List.findIdx?_eq_none_iff.2 fun line hline => ?_
      rw [hl, List.nil_append] at hline
      rcases List.mem_append.1 hline with h | h
      · simpa using habove line h
      · simpa using hbelow line h
    rw [dropBlankEnds?, hnone, hm]
  · -- the first and the last line that are kept are not blank, so they are the ones that are found
    have hgetLast : (dropBlankEnds lines).getLast? = some last := by simp [hm, hmid]
    have hlast : last.allBlank = false := getLast?_dropBlankEnds hgetLast
    obtain ⟨first, rest, hcons⟩ := List.exists_cons_of_ne_nil (l := mid) (by simp [hmid])
    have hhead : (dropBlankEnds lines).head? = some first := by simp [hm, hcons]
    have hfirst : first.allBlank = false := head?_dropBlankEnds hhead
    have hstart : lines.findIdx? (!Text.allBlank ·) = some above.length := by
      rw [hl, hcons]
      exact findIdx?_of_allBlank habove hfirst (rest ++ below)
    have hend : lines.reverse.findIdx? (!Text.allBlank ·) = some below.length := by
      have hrev : lines.reverse = below.reverse ++ last :: (init.reverse ++ above.reverse) := by simp [hl, hmid]
      rw [hrev, findIdx?_of_allBlank (fun l h => hbelow l (List.mem_reverse.1 h)) hlast, List.length_reverse]
    have hlength : lines.length - below.length = above.length + mid.length := by
      rw [hl, List.length_append, List.length_append]
      omega
    rw [dropBlankEnds?, hstart, hend, hm]
    show rows? above.length (lines.length - below.length) lines = some mid
    rw [hlength, hl, rows?_append]

theorem indentation?_eq (line : Text) : indentation? line = some line.indentation := by
  have hlength : line.byteLength - line.trimStart.byteLength = line.indentation.byteLength := by
    conv_lhs => enter [1]; rw [← Text.indentation_append_trimStart line, Text.byteLength_append]
    exact Nat.add_sub_cancel _ _
  rw [indentation?, hlength]
  exact Text.slice?_of_prefix ⟨_, Text.indentation_append_trimStart line⟩

theorem signature?_eq (lines : List Text) : signature? lines = some (signature lines) := by
  induction lines with
  | nil => rfl
  | cons line rest ih =>
    rw [signature?, signature]
    cases harrow : beforeArrow? line with
    | some head =>
      obtain ⟨u, hline, -⟩ := exists_of_beforeArrow? harrow
      have hhead : head <+: line := ⟨_, hline.symm⟩
      simp only [Option.map_some, Text.slice?_of_prefix hhead]
      rfl
    | none =>
      have hcut : dropSemicolons line.trimEnd <+: line.trimEnd :=
        (Text.dropEndWhile_prefix_self _ _).trans (Text.dropEndWhile_prefix_self _ _)
      simp only [Option.map_none, Text.slice?_of_prefix hcut, ih]
      split <;> rfl

/-! ### Slices at braces -/

theorem exists_of_mem_scanLine {row column : Nat} {before t : Text} {context : Context}
    (h : b ∈ (scanLine row before column context t).1) :
    b.row = row ∧ ∃ u v, t = u ++ braceChar b.isOpening :: v ∧ b.column = column + Text.byteLength u := by
  induction t generalizing before column context with
  | nil => cases h
  | cons c t ih =>
    simp only [scanLine] at h
    have hrest (h : b ∈ (scanLine row (c :: before) (column + c.utf8Size) (context.next before c) t).1) :
        b.row = row ∧ ∃ u v, c :: t = u ++ braceChar b.isOpening :: v ∧ b.column = column + Text.byteLength u := by
      obtain ⟨hrow, u, v, rfl, hcolumn⟩ := ih h
      exact ⟨hrow, c :: u, v, rfl, by rw [hcolumn, Text.byteLength_cons, Nat.add_assoc]⟩
    split at h
    next hc =>
      rcases List.mem_cons.1 h with rfl | h
      · refine ⟨rfl, [], t, ?_, rfl⟩
        obtain ⟨-, hc⟩ := Bool.and_eq_true_iff.1 hc
        rcases Bool.or_eq_true_iff.1 hc with hc | hc <;> rw [beq_iff_eq.1 hc] <;> rfl
      · exact hrest h
    next => exact hrest h

/-- The brace is a character of the line. -/
structure Brace.Within (b : Brace) (line : Text) : Prop where
  before : Text.isBoundary b.column line
  after : Text.isBoundary (b.column + 1) line

theorem within_of_append {u v line : Text} (hline : line = u ++ braceChar b.isOpening :: v)
    (hcolumn : b.column = u.byteLength) : b.Within line where
  before := by
    rw [hcolumn, hline]
    exact Text.isBoundary_byteLength_append u _
  after := by
    have hsize : (braceChar b.isOpening).utf8Size = 1 := by cases b.isOpening <;> rfl
    have h := Text.isBoundary_byteLength_append (u ++ [braceChar b.isOpening]) v
    rw [Text.byteLength_append, Text.byteLength_cons, hsize, List.append_assoc] at h
    rw [hcolumn, hline]
    exact h

theorem exists_of_mem_scanLines {row : Nat} {context : Context} (h : b ∈ scanLines row context lines) :
    row ≤ b.row ∧ ∃ line, lines[b.row - row]? = some line ∧ b.Within line := by
  induction lines generalizing row context with
  | nil => cases h
  | cons line lines ih =>
    rcases List.mem_append.1 h with h | h
    · obtain ⟨hrow, u, v, hline, hcolumn⟩ := exists_of_mem_scanLine h
      exact ⟨hrow.ge, line, by simp [hrow], within_of_append hline (by simpa using hcolumn)⟩
    · obtain ⟨hrow, l, hl, hwithin⟩ := ih h
      have hnext : b.row - row = b.row - (row + 1) + 1 := by omega
      exact ⟨by omega, l, by rw [hnext, List.getElem?_cons_succ, hl], hwithin⟩

/-- A brace of the code stands in the line that is given for it. -/
theorem exists_of_mem_codeBraces (h : b ∈ codeBraces lines) : ∃ line, lines[b.row]? = some line ∧ b.Within line :=
  (exists_of_mem_scanLines h).2

theorem rows?_eq_some {start stop : Nat} (h : start ≤ stop) (hstop : stop ≤ lines.length) :
    rows? start stop lines = some ((lines.take stop).drop start) :=
  if_pos ⟨h, hstop⟩

theorem take_one_drop_of_getElem? {row : Nat} {line : Text} (h : lines[row]? = some line) :
    (lines.drop row).take 1 = [line] := by
  rw [List.take_one, List.head?_drop, h]
  rfl

theorem upTo?_eq (h : b ∈ codeBraces lines) :
    upTo? b lines = some (lines.take b.row ++ ((lines.drop b.row).take 1).map (Text.takeBytes (b.column + 1))) := by
  obtain ⟨line, hline, hwithin⟩ := exists_of_mem_codeBraces h
  have hrow : b.row < lines.length := (List.getElem?_eq_some_iff.1 hline).1
  rw [take_one_drop_of_getElem? hline, upTo?, rows?_eq_some (Nat.zero_le _) hrow.le, hline]
  simp only [Option.bind_eq_bind, Option.bind_some, Text.slice?_takeBytes hwithin.after]
  rfl

theorem outline?_eq (lines : List Text) : outline? lines = some (outline lines) := by
  cases lines with
  | nil => rfl
  | cons first rest =>
    rw [outline?, outline, byteBraces_eq, indentation?_eq]
    cases hfind : (codeBraces (first :: rest)).find? (·.isOpening) with
    | none =>
      simp only [signature?_eq]
      rfl
    | some brace =>
      simp only [upTo?_eq (List.mem_of_find?_eq_some hfind)]
      rfl

theorem between?_same_row {opening closing : Brace} {line : Text} (hrow : opening.row = closing.row)
    (hline : lines[closing.row]? = some line) (hopen : opening.Within line) (hclose : closing.Within line) :
    between? opening closing lines =
      some (keepText Text.trim (Text.slice (opening.column + 1) closing.column line)) := by
  rw [between?, if_pos hrow]
  split
  next hle =>
    rw [Text.slice_eq_nil hle]
    rfl
  next hlt =>
    rw [hrow, hline]
    simp only [Option.bind_eq_bind, Option.bind_some, Text.slice?_eq_some (by omega) hopen.after hclose.before]
    rfl

theorem between?_of_row_lt {opening closing : Brace} {first last : Text} (hrow : opening.row < closing.row)
    (hfirst : lines[opening.row]? = some first) (hlast : lines[closing.row]? = some last) (hopen : opening.Within first)
    (hclose : closing.Within last) :
    between? opening closing lines =
      some (dropBlankEnds (keepText Text.trim (Text.dropBytes (opening.column + 1) first) ++
        (lines.take closing.row).drop (opening.row + 1) ++
        keepText Text.trimEnd (Text.takeBytes closing.column last))) := by
  have hlength : closing.row < lines.length := (List.getElem?_eq_some_iff.1 hlast).1
  rw [between?, if_neg hrow.ne, if_neg hrow.not_gt, hfirst, hlast]
  simp only [Option.bind_eq_bind, Option.bind_some, Text.slice?_dropBytes hopen.after,
    rows?_eq_some hrow hlength.le, Text.slice?_takeBytes hclose.before, dropBlankEnds?_eq]

theorem content?_eq (lines : List Text) : content? lines = some (content lines) := by
  simp only [content?, content, byteBraces_eq]
  cases hopening : (codeBraces lines).find? (·.isOpening) with
  | none => rfl
  | some opening =>
    cases hclosing : (codeBraces lines).reverse.find? (fun b => !b.isOpening) with
    | none => rfl
    | some closing =>
      obtain ⟨first, hfirst, hopen⟩ := exists_of_mem_codeBraces (List.mem_of_find?_eq_some hopening)
      obtain ⟨last, hlast, hclose⟩ :=
        exists_of_mem_codeBraces (List.mem_reverse.1 (List.mem_of_find?_eq_some hclosing))
      simp only [take_one_drop_of_getElem? hfirst, take_one_drop_of_getElem? hlast, List.flatMap_singleton]
      rcases Nat.lt_trichotomy opening.row closing.row with hrow | hrow | hrow
      · rw [if_neg hrow.ne, if_neg hrow.not_gt, between?_of_row_lt hrow hfirst hlast hopen hclose]
      · rw [hrow, hlast] at hfirst
        cases hfirst
        rw [if_pos hrow, between?_same_row hrow hlast hopen hclose]
      · rw [between?, if_neg hrow.ne', if_pos hrow, if_neg hrow.ne', if_pos hrow]

/-! ### The snippet -/

theorem mapM_eq_some {α β : Type} {f : α → Option β} {g : α → β} (h : ∀ a, f a = some (g a)) (l : List α) :
    l.mapM f = some (l.map g) := by
  rw [funext h]
  exact List.mapM_pure

theorem dedent?_eq (lines : List Text) : dedent? lines = some (dedent lines) := by
  have hslice (line : Text) (width : Nat) :
      Text.slice? (Text.byteLength (line.take width)) line.byteLength line = some (line.drop width) := by
    have h := Text.slice?_rest (line.take width) (line.drop width)
    rwa [List.take_append_drop] at h
  simp only [dedent?, mapM_eq_some indentation?_eq, Option.bind_eq_bind, Option.bind_some, List.map_map]
  exact mapM_eq_some (fun line => hslice line _) lines

theorem shape?_eq (mode : Mode) (lines : List Text) : shape? mode lines = some (shape mode lines) := by
  cases mode with
  | full => rfl
  | outline => exact outline?_eq lines
  | content => exact content?_eq lines

theorem extractSpan?_eq (source : Text) (mode : Mode) (span : Span) :
    extractSpan? source mode span = some (extractSpan source mode span) := by
  simp only [extractSpan?, spanText?_eq, dropBlankEnds?_eq, shape?_eq, dedent?_eq]
  rfl

/-- Every slice that is taken for a snippet is in range and between characters, whatever the spans are. -/
theorem extract?_eq_some (source : Text) (mode : Mode) :
    (∀ span, extractSpan? source mode span = some (extractSpan source mode span)) ∧
      ∀ spans, extractSpans? source mode spans = some (extractSpans source mode spans) := by
  refine ⟨extractSpan?_eq source mode, fun spans => ?_⟩
  rw [extractSpans?, mapM_eq_some (extractSpan?_eq source mode)]
  rfl

end Snippet

end Excerpt
