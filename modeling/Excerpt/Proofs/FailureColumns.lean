import Excerpt.Backend.Standard
import Excerpt.Proofs.CheckedSlices
import Excerpt.Proofs.DirectiveText
import Excerpt.Proofs.Rescan

/-!
# The columns of failures

The byte offset at which a failure is reported is put together from three measurements: of the fence and the blanks
after it, of the directive up to what follows its line list, and of the blanks before the selector. Each is the length
of a text that the line begins with (`Fence.exists_lead`, `Directive.exists_front`), so their sum falls between two
characters of the line, and the column counts the characters before the selector (`Points`).
-/

namespace Excerpt

namespace Text
variable {t u : Text}

theorem byteLength_replicate (n : Nat) (c : Char) : byteLength (List.replicate n c) = n * c.utf8Size := by
  induction n with
  | zero => simp
  | succ n ih => rw [List.replicate_succ, byteLength_cons, ih, Nat.succ_mul, Nat.add_comm]

/-- A text is what is left of it when it is trimmed, with blank characters around it. -/
theorem exists_trim (t : Text) :
    ∃ trail, trimStart t = trim t ++ trail ∧ trail.allBlank ∧ t = indentation t ++ (trim t ++ trail) := by
  obtain ⟨trail, htrail, hblank⟩ := exists_dropEndWhile isBlank (trimStart t)
  have hstart : trimStart t = trim t ++ trail := htrail
  refine ⟨trail, hstart, List.all_eq_true.2 hblank, ?_⟩
  rw [← hstart, indentation_append_trimStart]

theorem allBlank_append (ht : t.allBlank) (hu : u.allBlank) : allBlank (t ++ u) := by
  rw [allBlank, List.all_append]
  exact Bool.and_eq_true_iff.2 ⟨ht, hu⟩

theorem isBoundary_of_prefix (h : t <+: u) :
    isBoundary t.byteLength u ∧ t.byteLength ≤ u.byteLength := by
  obtain ⟨v, rfl⟩ := h
  exact ⟨isBoundary_byteLength_append t v, by rw [byteLength_append]; omega⟩

end Text

namespace Directive
variable {e : Text} {d : Directive}

theorem splitLines_suffix (rest : Text) : (splitLines rest).2 <:+ rest := by
  unfold splitLines
  split
  next list =>
    cases hbreak : Text.breakAt ')' list with
    | none => exact List.suffix_rfl
    | some parts =>
      obtain ⟨entries, tail⟩ := parts
      obtain ⟨rfl, -⟩ := Text.breakAt_eq_some hbreak
      exact ⟨'(' :: (entries ++ [')']), by simp⟩
  next => exact List.suffix_rfl

/-- The selector is what stands at its offset, up to blanks. -/
theorem exists_front (h : parse? e = some d) :
    ∃ front trail, e = front ++ (d.selector ++ trail) ∧ trail.allBlank ∧ front.byteLength = d.selectorOffset ∧
      (d.selector = [] → trail = []) := by
  obtain ⟨hint, inner, rest, he, -, -, rfl⟩ := parse?_eq_some h
  obtain ⟨list, hrest⟩ := splitLines_suffix rest
  generalize (splitLines rest).2 = tail at hrest ⊢
  obtain ⟨trail, hstart, hblank, htail⟩ := Text.exists_trim tail
  by_cases hempty : Text.trim tail = []
  · -- without a selector the offset is that of the end
    refine ⟨e, [], ?_, rfl, ?_, fun _ => rfl⟩
    · simp [hempty]
    · simp [startOf, hempty]
  · have hsplit :
        e = (hint ++ '[' :: (inner ++ ']' :: list) ++ Text.indentation tail) ++ (Text.trim tail ++ trail) := by
      rw [List.append_assoc, ← htail, he, ← hrest]
      simp
    refine ⟨_, trail, hsplit, hblank, ?_, fun hnil => absurd hnil hempty⟩
    have hlength := congrArg Text.byteLength hsplit
    rw [Text.byteLength_append, ← hstart] at hlength
    show _ = startOf e tail
    rw [startOf, if_neg (by simpa using hempty)]
    omega

theorem dropBytes_selectorOffset (h : parse? e = some d) :
    Text.isBoundary d.selectorOffset e ∧ d.selectorOffset ≤ e.byteLength ∧
      (∃ trail : Text, Text.dropBytes d.selectorOffset e = d.selector ++ trail ∧ trail.allBlank) ∧
      (d.selector = [] → d.selectorOffset = e.byteLength) := by
  obtain ⟨front, trail, rfl, htrail, hfront, hnil⟩ := exists_front h
  rw [← hfront]
  obtain ⟨hboundary, hle⟩ := Text.isBoundary_of_prefix (List.prefix_append front _)
  refine ⟨hboundary, hle, ⟨trail, Text.dropBytes_append .., htrail⟩, fun hempty => ?_⟩
  rw [hempty, hnil hempty, List.append_nil, List.append_nil]

end Directive

namespace Fence
variable {line : Text} {fence : Fence}

/-- A line is the fence with blanks after it, the info, and blanks again. -/
theorem exists_lead (h : ofLine? line = some fence) :
    ∃ lead trail, line = lead ++ (fence.info ++ trail) ∧ trail.allBlank ∧ lead.byteLength = fence.infoOffset := by
  obtain ⟨ho, after, hcontent, -, hinfo, hoffset⟩ := ofLine?_eq_some_iff.1 h
  obtain ⟨ending, hline, hending⟩ := Text.exists_dropEndWhile (fun c => c == '\n' || c == '\r') line
  obtain ⟨trail, -, htrail, hafter⟩ := Text.exists_trim after
  have hblank : Text.allBlank ending := by
    refine List.all_eq_true.2 fun c hc => ?_
    rcases Bool.or_eq_true_iff.1 (hending c hc) with hc | hc <;> rw [eq_of_beq hc] <;> rfl
  have hmarker : fence.marker.utf8Size = 1 := by rcases ho.marker with hm | hm <;> rw [hm] <;> rfl
  refine ⟨List.replicate fence.indent ' ' ++ (List.replicate fence.width fence.marker ++ Text.indentation after),
    trail ++ ending, ?_, Text.allBlank_append htrail hblank, ?_⟩
  · have hline : line = lineContent line ++ ending := hline
    rw [hline, hcontent, hinfo]
    conv_lhs => rw [hafter]
    simp only [List.append_assoc]
  · have hspace : ' '.utf8Size = 1 := rfl
    rw [Text.byteLength_append, Text.byteLength_append, Text.byteLength_replicate, Text.byteLength_replicate, hmarker,
      hspace, hoffset]
    omega

end Fence

namespace Document
open Text (isBoundary)
variable {disk : Files.Disk} {directory : Option Text} {session session' final : Session} {fence : Fence}
  {line before : Text} {lines : List Text} {result : Result} {results : List Result} {error : ExtractError}
  {offset column : Nat}

/-- What stands in the line before the place that a failure of the fence points at: the selector, the end of the info if
there is no selector, or the info if it is no directive. -/
inductive Points (line : Text) (fence : Fence) : Text → Prop
  | unparsed {before trail : Text} (hp : Directive.parse? fence.info = none)
      (hline : line = before ++ (fence.info ++ trail)) (ht : trail.allBlank) : Points line fence before
  | selector {d : Directive} {before trail : Text} (hp : Directive.parse? fence.info = some d) (hne : d.selector ≠ [])
      (hline : line = before ++ (d.selector ++ trail)) (ht : trail.allBlank) : Points line fence before
  | noSelector {d : Directive} {lead trail : Text} (hp : Directive.parse? fence.info = some d) (hnil : d.selector = [])
      (hline : line = lead ++ (fence.info ++ trail)) (ht : trail.allBlank) : Points line fence (lead ++ fence.info)

/-- The byte offset in its line at which a failure of the fence is reported. -/
def failureOffset (fence : Fence) : Nat :=
  match Directive.parse? fence.info with
  | none => fence.infoOffset
  | some d => fence.infoOffset + d.selectorOffset

theorem offset_eq [Backend] (h : answersOf disk directory session fence = .error (error, offset)) :
    offset = failureOffset fence := by
  unfold answersOf excerptOf at h
  unfold failureOffset
  cases hp : Directive.parse? fence.info with
  | none =>
    rw [hp] at h
    cases h
    rfl
  | some d =>
    simp only [hp] at h
    cases he : (session.extract disk d directory).2 with
    | error e =>
      rw [he] at h
      cases h
      rfl
    | ok excerpt =>
      rw [he] at h
      cases h

theorem exists_points (h : Fence.ofLine? line = some fence) :
    ∃ before, Points line fence before ∧ before <+: line ∧ before.byteLength = failureOffset fence := by
  obtain ⟨lead, trail, hline, htrail, hlead⟩ := Fence.exists_lead h
  unfold failureOffset
  cases hp : Directive.parse? fence.info with
  | none => exact ⟨lead, .unparsed hp hline htrail, ⟨_, hline.symm⟩, hlead⟩
  | some d =>
    obtain ⟨front, blanks, hinfo, hblanks, hfront, hnil⟩ := Directive.exists_front hp
    have hsplit : line = (lead ++ front) ++ (d.selector ++ (blanks ++ trail)) := by
      rw [hline, hinfo]
      simp only [List.append_assoc]
    refine ⟨lead ++ front, ?_, ⟨_, hsplit.symm⟩, by rw [Text.byteLength_append, hlead, hfront]⟩
    by_cases hempty : d.selector = []
    · have hall : front = fence.info := by rw [hinfo, hempty, hnil hempty]; simp
      rw [hall]
      exact .noSelector hp hempty hline htrail
    · exact .selector hp hempty hsplit (Text.allBlank_append hblanks htrail)

theorem columnOf_byteLength (h : before <+: line) : columnOf line before.byteLength = before.length + 1 := by
  obtain ⟨after, rfl⟩ := h
  rw [columnOf, Text.takeBytes_append]

theorem Run.meets [Backend] (h : Run disk directory session results final) (hm : result ∈ results) :
    ∃ session session', Meets disk directory session result.block result.outcome session' := by
  induction h with
  | nil => cases hm
  | cons h _ ih =>
    rcases List.mem_cons.1 hm with rfl | hm
    · exact ⟨_, _, h⟩
    · exact ih hm

/-- A block that fails is a directive, and its column is that of its offset. -/
theorem Meets.column_eq [Backend] {block : Block}
    (h : Meets disk directory session block (.failed error column) session') :
    ∃ fence first body last, block = .code fence first body last ∧ '[' ∈ fence.info ∧
      column = columnOf first (failureOffset fence) := by
  cases h with
  | unparsed hd hp => exact ⟨_, _, _, _, rfl, hd, by rw [failureOffset, hp]⟩
  | failed hd hp _ => exact ⟨_, _, _, _, rfl, hd, by rw [failureOffset, hp]⟩

/-- The column of every failure in a document counts the characters before the place that it points at. -/
theorem Run.points [Backend] (h : Run disk directory session results final)
    (hcut : results.map Result.block = Block.cut lines) (hm : result ∈ results)
    (ho : result.outcome = .failed error column) :
    ∃ fence first body last before, result.block = .code fence first body last ∧ Fence.ofLine? first = some fence ∧
      '[' ∈ fence.info ∧ Points first fence before ∧ column = before.length + 1 := by
  obtain ⟨_, _, hmeets⟩ := h.meets hm
  rw [ho] at hmeets
  obtain ⟨fence, first, body, last, hblock, hd, hcolumn⟩ := hmeets.column_eq
  have hproper : (Block.code fence first body last).Proper := by
    refine (Block.partition_iff_forall.1 (Block.partition_cut lines)).2.1 _ ?_
    rw [← hcut, ← hblock]
    exact List.mem_map_of_mem hm
  obtain ⟨before, hpoints, hbefore, hlength⟩ := exists_points hproper.1
  refine ⟨fence, first, body, last, before, hblock, hproper.1, hd, hpoints, ?_⟩
  rw [hcolumn, ← hlength, columnOf_byteLength hbefore]

/-- The offset of a selector is where the selector stands in its directive. The offset of a failure falls between two
characters of the line of its fence, with the selector after it, and so it is for every fence that fails in a document
that is rendered: the column in the report counts the characters before the selector. -/
theorem failure_columns [Backend] (disk : Files.Disk) (document : Text) (session : Session) (markdown : Text) :
    (∀ e d, Directive.parse? e = some d →
      isBoundary d.selectorOffset e ∧ d.selectorOffset ≤ e.byteLength ∧
        (∃ trail : Text, Text.dropBytes d.selectorOffset e = d.selector ++ trail ∧ trail.allBlank) ∧
        (d.selector = [] → d.selectorOffset = e.byteLength)) ∧
    (∀ line fence session directory error offset, Fence.ofLine? line = some fence →
      (excerptOf disk session directory fence).2 = .error (error, offset) →
      isBoundary offset line ∧ offset ≤ line.byteLength ∧
        ∃ before, Points line fence before ∧ Text.slice? 0 (min offset line.byteLength) line = some before ∧
          columnOf line offset = before.length + 1) ∧
    ∃ results final, results.map Result.block = Block.cut markdown.rawLines ∧ Numbered 1 results ∧
      Run disk (Path.directory? document) session results final ∧
      (render disk document session markdown).1.report =
        session.report ++ results.filterMap (Result.failure? document) ∧
      ∀ result ∈ results, ∀ error column, result.outcome = .failed error column →
        ∃ fence first body last before, result.block = .code fence first body last ∧
          Fence.ofLine? first = some fence ∧ '[' ∈ fence.info ∧ Points first fence before ∧
          column = before.length + 1 := by
  refine ⟨fun e d => Directive.dropBytes_selectorOffset, ?_, ?_⟩
  · intro line fence session directory error offset hf he
    obtain ⟨before, hpoints, hbefore, hlength⟩ := exists_points hf
    rw [offset_eq he, ← hlength]
    obtain ⟨hboundary, hle⟩ := Text.isBoundary_of_prefix hbefore
    refine ⟨hboundary, hle, before, hpoints, ?_, columnOf_byteLength hbefore⟩
    rw [Nat.min_eq_left hle, Text.slice?_of_prefix hbefore]
  · obtain ⟨results, final, hcut, hnumbered, hrun, hrender⟩ :=
      renderBlocks_outcomes disk document session session.report 1 (Block.cut markdown.rawLines)
    refine ⟨results, final, hcut, hnumbered, hrun, ?_, fun result hm error column => hrun.points hcut hm⟩
    exact congrArg (fun p => p.1.report) hrender

/-- A line with wide blanks after the fence, before the selector and after it, and other characters of more than one
byte. -/
def wideLine : Text := " ~~~~\u3000ü[é](3)\u2003Ä\u00a0\r\n".toList

def wideFence : Fence := ⟨1, '~', 4, "ü[é](3)\u2003Ä".toList, 8⟩

theorem failure_columns_wide :
    Fence.ofLine? wideLine = some wideFence ∧
      (excerptOf ⟨.empty, []⟩ (.new .empty []) none wideFence).2 = .error (.targetNotFound ['é'] 0, 20) ∧
      isBoundary 20 wideLine ∧ columnOf wideLine 20 = 15 ∧
      (render ⟨.empty, []⟩ ['d'] (.new .empty []) ("a\n".toList ++ wideLine)).1.report.map (·.column) = [15] := by
  have hf : Fence.ofLine? wideLine = some wideFence := by decide
  have he : (excerptOf ⟨.empty, []⟩ (.new .empty []) none wideFence).2 = .error (.targetNotFound ['é'] 0, 20) := rfl
  obtain ⟨hboundary, -, -⟩ := (failure_columns ⟨.empty, []⟩ ['d'] (.new .empty []) []).2.1 _ _ _ _ _ _ hf he
  exact ⟨hf, he, hboundary, by decide, by decide +kernel⟩

end Document

end Excerpt
