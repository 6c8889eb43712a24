import Excerpt.Backend.Standard
import Excerpt.Proofs.Answers
import Excerpt.Proofs.DirectiveText

/-!
# Reading a rendered document

A snippet is written between the fence of its directive and a copy of it, whatever its lines are. The block reads back
as it was written if no line of the snippet closes it and the language does not lengthen the fence (`ReadsBack`), and
`cut_render` says that a rendered document falls into the blocks it was made of exactly if all its snippets read back.
Rendering such a document once more changes nothing and fails where it failed before (`render_render`).
-/

namespace Excerpt

namespace Block
variable {lines : List Text} {blocks : List Block}

/-- A block that is right on its own: its first line opens it, and no line inside it closes it, but its last one. -/
def Proper : Block → Prop
  | plain line => Fence.ofLine? line = none
  | code fence first body last =>
    Fence.ofLine? first = some fence ∧ (∀ line ∈ body, ¬ fence.isClosedBy line) ∧ ∀ line ∈ last, fence.isClosedBy line

instance : (block : Block) → Decidable block.Proper
  | plain line => inferInstanceAs (Decidable (Fence.ofLine? line = none))
  | code fence first body last => inferInstanceAs (Decidable (Fence.ofLine? first = some fence ∧
      (∀ line ∈ body, ¬ fence.isClosedBy line) ∧ ∀ line ∈ last, fence.isClosedBy line))

/-- Whether other blocks can follow. -/
def ends : Block → Bool
  | plain _ => true
  | code _ _ _ last => last.isSome

theorem lines_ne_nil (block : Block) : block.lines ≠ [] := by
  cases block <;> simp [lines]

theorem forall_mem_dropLast_cons {p : Block → Prop} {block : Block} :
    (∀ b ∈ (block :: blocks).dropLast, p b) ↔ (blocks ≠ [] → p block) ∧ ∀ b ∈ blocks.dropLast, p b := by
  cases blocks <;> simp

/-- The blocks of a partition are those that are right one by one, where only the last one may be left open. -/
theorem partition_iff_forall : Partition lines blocks ↔
    blocks.flatMap Block.lines = lines ∧ (∀ block ∈ blocks, block.Proper) ∧ ∀ block ∈ blocks.dropLast, block.ends := by
  constructor
  · intro h
    refine ⟨by rw [h.eq_cut, flatMap_lines_cut], ?_⟩
    induction h with
    | nil => simp
    | plain h _ ih =>
      exact ⟨List.forall_mem_cons.2 ⟨h, ih.1⟩, forall_mem_dropLast_cons.2 ⟨fun _ => rfl, ih.2⟩⟩
    | closed hf hb hl _ ih =>
      refine ⟨List.forall_mem_cons.2 ⟨⟨hf, hb, ?_⟩, ih.1⟩, forall_mem_dropLast_cons.2 ⟨fun _ => rfl, ih.2⟩⟩
      rintro _ ⟨⟩
      exact hl
    | unclosed hf hb => exact ⟨List.forall_mem_singleton.2 ⟨hf, hb, by simp⟩, by simp⟩
  · rintro ⟨rfl, hp, he⟩
    induction blocks with
    | nil => exact .nil
    | cons block rest ih =>
      obtain ⟨hb, hp⟩ := List.forall_mem_cons.1 hp
      obtain ⟨hends, he⟩ := forall_mem_dropLast_cons.1 he
      have hrest := ih hp he
      cases block with
      | plain line => exact .plain hb hrest
      | code fence first body last =>
        obtain ⟨hf, hbody, hl⟩ := hb
        cases last with
        | none =>
          -- nothing follows a block that is left open
          have hnil : rest = [] := Decidable.byContradiction fun hne => Bool.false_ne_true (hends hne)
          subst hnil
          simpa [lines] using Partition.unclosed hf hbody
        | some last => simpa [lines] using Partition.closed hf hbody (hl last rfl) hrest

theorem flatMap_lines_eq_nil (h : blocks.flatMap Block.lines = []) : blocks = [] :=
  List.eq_nil_iff_forall_not_mem.2 fun block hm => block.lines_ne_nil (List.flatMap_eq_nil_iff.1 h block hm)

theorem prefix_cut_iff {before after : List Block} (he : ∀ block ∈ (before ++ after).dropLast, block.ends) :
    before <+: cut ((before ++ after).flatMap Block.lines) ↔ ∀ block ∈ before, block.Proper := by
  obtain ⟨-, hp, -⟩ := partition_iff_forall.1 (partition_cut ((before ++ after).flatMap Block.lines))
  obtain ⟨hlines', hp', he'⟩ := partition_iff_forall.1 (partition_cut (after.flatMap Block.lines))
  refine ⟨fun h block hm => hp block (h.subset hm), fun h => ⟨cut (after.flatMap Block.lines), ?_⟩⟩
  refine (partition_iff_forall.2 ⟨?_, List.forall_mem_append.2 ⟨h, hp'⟩, ?_⟩).eq_cut
  · rw [List.flatMap_append, List.flatMap_append, hlines']
  · -- if any lines follow, all the blocks before them must end
    cases after with
    | nil => simpa [cut] using he
    | cons block after =>
      have hne : cut ((block :: after).flatMap Block.lines) ≠ [] := fun h0 => by
        rw [h0] at hlines'
        exact List.cons_ne_nil _ _ (flatMap_lines_eq_nil hlines'.symm)
      rw [List.dropLast_append_of_ne_nil (List.cons_ne_nil _ _)] at he
      rw [List.dropLast_append_of_ne_nil hne]
      exact List.forall_mem_append.2 ⟨(List.forall_mem_append.1 he).1, he'⟩

theorem prefix_cut_flatMap_iff :
    blocks <+: cut (blocks.flatMap Block.lines) ↔ cut (blocks.flatMap Block.lines) = blocks := by
  refine ⟨fun ⟨rest, h⟩ => ?_, fun h => ⟨[], (List.append_nil _).trans h.symm⟩⟩
  have hlines := congrArg (List.flatMap Block.lines) h
  rw [flatMap_lines_cut, List.flatMap_append, List.append_right_eq_self] at hlines
  rw [← h, flatMap_lines_eq_nil hlines, List.append_nil]

end Block

namespace Directive

theorem parse?_language {expression : Text} {directive : Directive} (h : parse? expression = some directive) :
    ∃ hint rest, expression = hint ++ '[' :: rest ∧ '[' ∉ hint ∧ directive.language = Text.trim hint := by
  obtain ⟨hint, inner, rest, he, hhint, -, rfl⟩ := parse?_eq_some h
  exact ⟨hint, _, he, hhint, rfl⟩

end Directive

namespace Document
open Text (isBlank)
variable {disk : Files.Disk} {directory : Option Text} {session : Session} {fence : Fence} {excerpt : Excerpted}
  {answers : Answers} {c : Char}

/-! ### The hint of a directive -/

/-- The language of the excerpt is what stands before the first bracket of the fence. -/
def Hinted (fence : Fence) (excerpt : Excerpted) : Prop :=
  ∃ hint rest, fence.info = hint ++ '[' :: rest ∧ '[' ∉ hint ∧ excerpt.language = Text.trim hint

theorem hinted_of_answersOf [Backend] (h : answersOf disk directory session fence = .ok excerpt) :
    Hinted fence excerpt := by
  unfold answersOf excerptOf at h
  cases hp : Directive.parse? fence.info with
  | none => rw [hp] at h; cases h
  | some directive =>
    have hlanguage : excerpt.language = directive.language := by
      simp only [hp, Session.extract] at h
      cases hr : Target.resolve disk directive.path directory session.roots with
      | error e => rw [hr] at h; cases h
      | ok path =>
        simp only [hr] at h
        cases ht : (session.extractFrom disk directive path).2 with
        | error e => rw [ht] at h; cases h
        | ok text => rw [ht] at h; cases h; rfl
    obtain ⟨hint, rest, hinfo, hhint, hl⟩ := Directive.parse?_language hp
    exact ⟨hint, rest, hinfo, hhint, hlanguage.trans hl⟩

namespace Hinted

theorem mem_info (h : Hinted fence excerpt) (hc : c ∈ excerpt.language) : c ∈ fence.info ∧ c ≠ '[' := by
  obtain ⟨hint, rest, hinfo, hhint, hl⟩ := h
  have hm : c ∈ hint := Text.mem_of_mem_trim (hl ▸ hc)
  exact ⟨hinfo ▸ List.mem_append_left _ hm, fun h => hhint (h ▸ hm)⟩

theorem isBlank_getLast? (h : Hinted fence excerpt) (hc : (infoOf excerpt).getLast? = some c) : isBlank c = false := by
  obtain ⟨hint, -, -, -, hl⟩ := h
  unfold infoOf at hc
  split at hc
  · exact Text.not_isBlank_of_getLast?_trim (hl ▸ hc)
  · rw [List.getLast?_append] at hc
    cases hc
    decide

end Hinted

theorem mem_infoOf (h : c ∈ infoOf excerpt) :
    c ∈ excerpt.language ∨ c.isDigit ∨ c ∈ [' ', '\x7b', ',', '\x7d'] := by
  have hopen : " \x7b".toList = [' ', '\x7b'] := rfl
  have hclose : "\x7d".toList = ['\x7d'] := rfl
  unfold infoOf at h
  rw [hopen, hclose] at h
  split at h
  · exact .inl h
  · simp only [List.mem_append] at h
    rcases h with ((h | h) | h) | h
    · exact .inl h
    · exact .inr (.inr ((List.prefix_append [' ', '\x7b'] [',', '\x7d']).subset h))
    · rcases Text.mem_joinWith h with h | ⟨part, hp, hc⟩
      · exact .inr (.inr (by simp [List.mem_singleton.1 h]))
      · obtain ⟨n, -, rfl⟩ := List.mem_map.1 hp
        exact .inr (.inl (Text.isDigit_of_mem_ofNat hc))
    · exact .inr (.inr (by simp [List.mem_singleton.1 h]))

theorem mem_language_of_mem_infoOf (h : c ∈ infoOf excerpt) (hc : c ∈ ['\n', '[', '`']) : c ∈ excerpt.language := by
  rcases mem_infoOf h with h | h
  · exact h
  · simp only [List.mem_cons, List.not_mem_nil, or_false] at hc
    rcases hc with rfl | rfl | rfl <;> exact absurd h (by decide)

theorem head?_infoOf (hc : c ≠ ' ') : (infoOf excerpt).head? = some c ↔ excerpt.language.head? = some c := by
  unfold infoOf
  split
  · exact Iff.rfl
  · cases excerpt.language with
    | nil => simpa using Ne.symm hc
    | cons d t => simp

/-! ### Blocks with snippets -/

/-- No line of the snippet closes the block that it is written in, and the language does not lengthen the fence. -/
def ReadsBack (fence : Fence) (excerpt : Excerpted) : Prop :=
  (∀ line ∈ excerpt.text.lines, ¬ fence.isClosedBy (bodyLine fence line)) ∧
    excerpt.language.head? ≠ some fence.marker

instance (fence : Fence) (excerpt : Excerpted) : Decidable (ReadsBack fence excerpt) :=
  inferInstanceAs (Decidable (_ ∧ _))

/-- If the block is replaced, the snippet in its place reads back. -/
def Legible (answers : Answers) : Block → Prop
  | .plain _ => True
  | .code fence _ _ _ => isDirective fence → ∀ excerpt, answers fence = .ok excerpt → ReadsBack fence excerpt

instance (answers : Answers) : (block : Block) → Decidable (Legible answers block)
  | .plain _ => .isTrue trivial
  | .code fence _ _ _ =>
    decidable_of_iff (isDirective fence → ∀ excerpt ∈ (answers fence).toOption, ReadsBack fence excerpt)
      (imp_congr_right fun _ => forall_congr' fun _ => by cases answers fence <;> simp [Except.toOption])

theorem lineContent_fenceText (ho : fence.Opens) (info : Text) (hinfo : ∀ c ∈ info.getLast?, isBlank c = false) :
    Fence.lineContent (fenceText fence ++ info) = fenceText fence ++ info := by
  refine Fence.lineContent_eq_self fun c hc => ?_
  rw [List.getLast?_append] at hc
  cases hl : info.getLast? with
  | some d =>
    rw [hl] at hc
    cases hc
    exact hinfo _ hl
  | none =>
    have hw : fence.width ≠ 0 := fun h0 => absurd (h0 ▸ ho.width_le) (by decide)
    rw [hl, Option.none_or, fenceText, List.getLast?_append, List.getLast?_replicate, if_neg hw] at hc
    cases hc
    exact ho.isBlank_marker

theorem isClosedBy_fenceText (ho : fence.Opens) (feed : Bool) :
    fence.isClosedBy (fenceText fence ++ if feed then ['\n'] else []) := by
  have hfence : Fence.lineContent (fenceText fence) = fenceText fence := by
    simpa using lineContent_fenceText ho [] (by simp)
  have hc : Fence.lineContent (fenceText fence ++ if feed then ['\n'] else []) = fenceText fence := by
    cases feed
    · simpa using hfence
    · exact (Fence.lineContent_lineFeed _).trans hfence
  have hindent : Fence.leading ' ' (fenceText fence) = fence.indent :=
    Fence.leading_replicate_append (by rw [ho.replicate_eq_cons]; simpa using ho.marker_ne_space)
  have hwidth : Fence.leading fence.marker (List.replicate fence.width fence.marker) = fence.width := by
    simpa using Fence.leading_replicate_append (c := fence.marker) (n := fence.width) (t := []) (by simp)
  unfold Fence.isClosedBy
  simp only [hc, hindent]
  rw [fenceText, List.drop_left' (List.length_replicate ..), hwidth]
  simpa [Text.allBlank] using ho.indent_le

theorem ofLine?_written (ho : fence.Opens) (hh : Hinted fence excerpt) :
    Fence.ofLine? (fenceText fence ++ infoOf excerpt ++ ['\n']) = some (writtenFence fence excerpt) ↔
      excerpt.language.head? ≠ some fence.marker := by
  have hline : Fence.lineContent (fenceText fence ++ infoOf excerpt ++ ['\n']) = fenceText fence ++ infoOf excerpt :=
    (Fence.lineContent_lineFeed _).trans (lineContent_fenceText ho _ fun c => hh.isBlank_getLast?)
  refine Iff.trans ?_ (not_congr (head?_infoOf ho.marker_ne_space))
  rw [Fence.ofLine?_eq_some_iff, hline, fenceText, List.append_assoc]
  constructor
  · rintro ⟨-, after, hafter, hhead, -⟩
    rwa [List.append_cancel_left (List.append_cancel_left hafter)]
  · intro hhead
    refine ⟨⟨ho.indent_le, ho.marker, ho.width_le, fun ⟨hm, hinfo⟩ => ?_⟩, infoOf excerpt, rfl, hhead, rfl, rfl⟩
    have hl := mem_language_of_mem_infoOf (Text.mem_of_mem_trim hinfo) (by simp)
    exact ho.info ⟨hm, (hh.mem_info hl).1⟩

theorem proper_written_iff (ho : fence.Opens) (hh : Hinted fence excerpt) (last : Option Text) :
    (written fence excerpt last).Proper ↔ ReadsBack fence excerpt := by
  have hbody : (∀ line ∈ excerpt.text.lines.map (bodyLine fence), ¬ (writtenFence fence excerpt).isClosedBy line) ↔
      ∀ line ∈ excerpt.text.lines, ¬ fence.isClosedBy (bodyLine fence line) := List.forall_mem_map
  have hlast : ∀ line ∈ some (fenceText fence ++ if endsLine last then ['\n'] else []),
      (writtenFence fence excerpt).isClosedBy line := by
    rintro _ ⟨⟩
    exact isClosedBy_fenceText ho (endsLine last)
  show (_ ∧ _ ∧ _) ↔ _ ∧ _
  rw [ofLine?_written ho hh, hbody, and_iff_left hlast, and_comm]

theorem isDirective_writtenFence (hh : Hinted fence excerpt) : isDirective (writtenFence fence excerpt) = false := by
  have hinfo : '[' ∉ (writtenFence fence excerpt).info := fun hm =>
    (hh.mem_info (mem_language_of_mem_infoOf (Text.mem_of_mem_trim hm) (by simp))).2 rfl
  simpa [isDirective] using hinfo

theorem not_mem_fenceText (ho : fence.Opens) : '\n' ∉ fenceText fence := by
  have hm := ho.marker_ne_lineFeed
  simp [fenceText, List.mem_replicate, Ne.symm hm]

/-- The lines of the block with a snippet, but its last one. -/
theorem isLine_written (ho : fence.Opens) (hh : Hinted fence excerpt) (hinfo : '\n' ∉ fence.info) :
    ∀ line ∈ (fenceText fence ++ infoOf excerpt ++ ['\n']) :: excerpt.text.lines.map (bodyLine fence),
      Text.IsLine line := by
  refine List.forall_mem_cons.2 ⟨⟨_, fun hm => ?_, rfl⟩, List.forall_mem_map.2 fun line hline => ?_⟩
  · rcases List.mem_append.1 hm with hm | hm
    · exact not_mem_fenceText ho hm
    · exact hinfo (hh.mem_info (mem_language_of_mem_infoOf hm (by simp))).1
  · have hfeed := Text.not_mem_of_mem_lines hline
    unfold bodyLine
    split
    · exact ⟨[], by simp, rfl⟩
    · exact ⟨_, by simp [List.mem_replicate, hfeed], rfl⟩

theorem map_bodyLine (fence : Fence) (lines : List Text) :
    (lines.map (bodyLine fence)).map (fun line => line.dropLast.drop fence.indent) = lines := by
  rw [List.map_map]
  refine (List.map_congr_left fun line _ => ?_).trans (List.map_id lines)
  cases line with
  | nil => simp [bodyLine]
  | cons c t =>
    show ((List.replicate fence.indent ' ' ++ (c :: t) ++ ['\n']).dropLast).drop fence.indent = c :: t
    rw [List.dropLast_concat, List.drop_left' (List.length_replicate ..)]

/-! ### Documents with snippets -/

/-- The session answers with excerpts that have the language of the directive. -/
def Answers.Lawful (answers : Answers) : Prop := ∀ fence excerpt, answers fence = .ok excerpt → Hinted fence excerpt

theorem lawful_answersOf [Backend] (disk : Files.Disk) (directory : Option Text) (session : Session) :
    (answersOf disk directory session).Lawful := fun _ _ => hinted_of_answersOf

theorem rewritten_cases (answers : Answers) (block : Block) :
    (rewritten answers block = block ∧ Legible answers block) ∨
      ∃ fence first body last excerpt, block = .code fence first body last ∧ isDirective fence ∧
        answers fence = .ok excerpt ∧ rewritten answers block = written fence excerpt last := by
  cases block with
  | plain line => exact .inl ⟨rfl, trivial⟩
  | code fence first body last =>
    by_cases hd : isDirective fence
    · cases ha : answers fence with
      | error e => exact .inl ⟨by simp [rewritten, ha], fun _ excerpt h => by rw [ha] at h; cases h⟩
      | ok excerpt => exact .inr ⟨fence, first, body, last, excerpt, rfl, hd, ha, by simp [rewritten, hd, ha]⟩
    · exact .inl ⟨by simp [rewritten, hd], fun h => absurd h hd⟩

theorem proper_rewritten_iff (hl : answers.Lawful) {block : Block} (hb : block.Proper) :
    (rewritten answers block).Proper ↔ Legible answers block := by
  rcases rewritten_cases answers block with ⟨hr, hlegible⟩ | ⟨fence, first, body, last, excerpt, rfl, hd, ha, hr⟩
  · rw [hr]
    exact iff_of_true hb hlegible
  · -- the fence of the block is read from its first line, so it can be written again
    rw [hr, proper_written_iff (.of_ofLine? hb.1) (hl _ _ ha)]
    refine ⟨fun h _ excerpt' ha' => ?_, fun h => h hd excerpt ha⟩
    rw [ha] at ha'
    cases ha'
    exact h

theorem ends_rewritten {block : Block} (h : block.ends) : (rewritten answers block).ends := by
  rcases rewritten_cases answers block with ⟨hr, -⟩ | ⟨_, _, _, _, _, -, -, -, hr⟩ <;> rw [hr]
  · exact h
  · rfl

/-- A block with a snippet does not glue its last line to what follows. -/
theorem isLines_rewritten (hl : answers.Lawful) {block : Block} (hb : block.Proper) {lines lines' : List Text}
    (h : Text.IsLines (block.lines ++ lines)) (h' : Text.IsLines lines') (hne : lines = [] → lines' = []) :
    Text.IsLines ((rewritten answers block).lines ++ lines') := by
  rcases rewritten_cases answers block with ⟨hr, -⟩ | ⟨fence, first, body, last, excerpt, rfl, -, ha, hr⟩ <;> rw [hr]
  · exact h.replace h' hne
  · have ho : fence.Opens := .of_ofLine? hb.1
    have hinfo : '\n' ∉ fence.info := Fence.not_mem_info (h.isLine_or (by simp [Block.lines])) hb.1
    have hwritten := isLine_written ho (hl _ _ ha) hinfo
    unfold written Block.lines
    rw [List.append_assoc]
    refine .append hwritten ?_
    by_cases he : endsLine last
    · simp only [he, if_true]
      exact .cons ⟨_, not_mem_fenceText ho, rfl⟩ h'
    · -- the last line of the block has no line feed, so it is the last one of the document
      cases last with
      | none => exact absurd rfl he
      | some line =>
        have h : Text.IsLines ((first :: body) ++ line :: lines) := by simpa [Block.lines] using h
        have hnil : lines = [] := h.eq_nil_of_getLast? (by simpa [endsLine] using he)
        rw [hne hnil]
        have hfence : fenceText fence ≠ [] := by simp [fenceText, ho.replicate_eq_cons]
        simpa [he] using Text.IsLines.last hfence (not_mem_fenceText ho)

theorem isLines_flatMap_rewritten (hl : answers.Lawful) {blocks : List Block} (hb : ∀ block ∈ blocks, block.Proper)
    (h : Text.IsLines (blocks.flatMap Block.lines)) :
    Text.IsLines (blocks.flatMap fun block => (rewritten answers block).lines) := by
  induction blocks with
  | nil => exact .nil
  | cons block rest ih =>
    obtain ⟨hblock, hrest⟩ := List.forall_mem_cons.1 hb
    rw [List.flatMap_cons] at h ⊢
    refine isLines_rewritten hl hblock h (ih hrest h.right) fun hnil => ?_
    rw [Block.flatMap_lines_eq_nil hnil, List.flatMap_nil]

theorem rawLines_rewritten (hl : answers.Lawful) (markdown : Text) :
    Text.rawLines ((Block.cut markdown.rawLines).flatMap fun block => (rewritten answers block).lines).flatten =
      ((Block.cut markdown.rawLines).map (rewritten answers)).flatMap Block.lines := by
  obtain ⟨hlines, hproper, -⟩ := Block.partition_iff_forall.1 (Block.partition_cut markdown.rawLines)
  have hraw := isLines_flatMap_rewritten hl hproper (by rw [hlines]; exact Text.isLines_rawLines markdown)
  rw [hraw.rawLines_flatten, List.flatMap_map]

/-- The first blocks of a document are found in the rendered document exactly if their snippets read back. -/
theorem prefix_cut_rewritten (hl : answers.Lawful) {markdown : Text} {blocks : List Block}
    (hb : blocks <+: Block.cut markdown.rawLines) :
    blocks.map (rewritten answers) <+: Block.cut (Text.rawLines ((Block.cut markdown.rawLines).flatMap fun block =>
        (rewritten answers block).lines).flatten) ↔ ∀ block ∈ blocks, Legible answers block := by
  obtain ⟨-, hproper, hends⟩ := Block.partition_iff_forall.1 (Block.partition_cut markdown.rawLines)
  rw [rawLines_rewritten hl]
  obtain ⟨after, hcut⟩ := hb
  rw [← hcut] at hproper hends ⊢
  rw [List.map_append, Block.prefix_cut_iff, List.forall_mem_map]
  · exact forall₂_congr fun block hm => proper_rewritten_iff hl (hproper block (List.mem_append_left _ hm))
  · rw [← List.map_append, ← List.map_dropLast]
    exact List.forall_mem_map.2 fun block hm => ends_rewritten (hends block hm)

theorem cut_rewritten_iff (hl : answers.Lawful) (markdown : Text) :
    Block.cut (Text.rawLines ((Block.cut markdown.rawLines).flatMap fun block =>
        (rewritten answers block).lines).flatten) = (Block.cut markdown.rawLines).map (rewritten answers) ↔
      ∀ block ∈ Block.cut markdown.rawLines, Legible answers block := by
  rw [← prefix_cut_rewritten hl List.prefix_rfl, rawLines_rewritten hl, Block.prefix_cut_flatMap_iff]

/-! ### Rendering a rendered document -/

theorem rewritten_rewritten (hl : answers.Lawful) (block : Block) :
    rewritten answers (rewritten answers block) = rewritten answers block := by
  rcases rewritten_cases answers block with ⟨hr, -⟩ | ⟨fence, _, _, last, excerpt, -, -, ha, hr⟩
  · rw [hr, hr]
  · rw [hr]
    simp [rewritten, written, isDirective_writtenFence (hl _ _ ha)]

theorem failure?_rewritten (hl : answers.Lawful) (document : Text) (number : Nat) (block : Block) :
    failure? answers document number (rewritten answers block) = failure? answers document number block := by
  rcases rewritten_cases answers block with ⟨hr, -⟩ | ⟨fence, _, _, last, excerpt, rfl, hd, ha, hr⟩
  · rw [hr]
  · rw [hr]
    simp [failure?, written, isDirective_writtenFence (hl _ _ ha), hd, ha]

/-- What a failure says, and the column, without the line. -/
def unplaced (failure : Failure) : Text × Text × Nat := (failure.document, failure.message, failure.column)

theorem map_unplaced_failure? (answers : Answers) (document : Text) (number number' : Nat) (block : Block) :
    (failure? answers document number block).toList.map unplaced =
      (failure? answers document number' block).toList.map unplaced := by
  cases block with
  | plain line => rfl
  | code fence first body last =>
    cases hd : isDirective fence with
    | false => simp [failure?, hd]
    | true => cases ha : answers fence <;> simp [failure?, hd, ha, unplaced]

/-- The lines of failures move with the snippets before them; all else stays. -/
theorem map_unplaced_failures (hl : answers.Lawful) (document : Text) (number number' : Nat) (blocks : List Block) :
    (failures answers document number (blocks.map (rewritten answers))).map unplaced =
      (failures answers document number' blocks).map unplaced := by
  induction blocks generalizing number number' with
  | nil => rfl
  | cons block rest ih =>
    simp only [List.map_cons, failures, List.map_append, failure?_rewritten hl]
    rw [map_unplaced_failure? answers document number number' block, ih]

/-- A directive that succeeds is replaced by a block with the fence and the lines of its snippet that is no directive.
In the rendered document this block is found where it was written exactly if it reads back, as long as the blocks
before it do; so all blocks are found exactly if all snippets read back. -/
theorem cut_render [Backend] (disk : Files.Disk) (document : Text) (session : Session) (markdown : Text) :
    let answers := answersOf disk (Path.directory? document) session
    let blocks := Block.cut markdown.rawLines
    let rendered := (render disk document session markdown).2
    rendered = (blocks.flatMap fun block => (rewritten answers block).lines).flatten ∧
      (∀ fence first body last excerpt, Block.code fence first body last ∈ blocks → isDirective fence →
        answers fence = .ok excerpt → ∃ fence' first' body',
          rewritten answers (.code fence first body last) =
            .code fence' first' body' (some (fenceText fence ++ if endsLine last then ['\n'] else [])) ∧
          fence'.marker = fence.marker ∧ fence'.indent = fence.indent ∧ fence'.width = fence.width ∧
          ¬ isDirective fence' ∧ body'.map (fun line => line.dropLast.drop fence.indent) = excerpt.text.lines) ∧
      (∀ found, found <+: blocks → (found.map (rewritten answers) <+: Block.cut rendered.rawLines ↔
        ∀ block ∈ found, Legible answers block)) ∧
      (Block.cut rendered.rawLines = blocks.map (rewritten answers) ↔ ∀ block ∈ blocks, Legible answers block) := by
  intro answers blocks rendered
  have hl : answers.Lawful := lawful_answersOf disk (Path.directory? document) session
  have hr : rendered = (blocks.flatMap fun block => (rewritten answers block).lines).flatten :=
    congrArg Prod.snd (render_eq disk document session markdown)
  refine ⟨hr, fun fence first body last excerpt _ hd ha => ?_, fun found hf => ?_, ?_⟩
  · have hw : rewritten answers (.code fence first body last) = written fence excerpt last := by
      simp [rewritten, hd, ha]
    refine ⟨writtenFence fence excerpt, _, _, hw, rfl, rfl, rfl, ?_, map_bodyLine fence _⟩
    simp [isDirective_writtenFence (hl _ _ ha)]
  · rw [hr]
    exact prefix_cut_rewritten hl hf
  · rw [hr]
    exact cut_rewritten_iff hl markdown

/-- A disk with one file, whose first line is a fence and whose second line is one with a directive. -/
def fencedDisk : Files.Disk := ⟨.directory [(['f'], .file (.text "```\n```x[/gone]\n".toList))], []⟩

/-- A line of a snippet closes the block that it is written in: nothing is reported, but the rendered document has two
blocks in place of one, the second of which is a directive that fails in its turn. -/
theorem cut_render_fence_line :
    (render fencedDisk ['d'] (.new .empty []) "```text[/f]\n```\n".toList).2 =
        "```text\n```\n```x[/gone]\n```\n".toList ∧
      (render fencedDisk ['d'] (.new .empty []) "```text[/f]\n```\n".toList).1.report = [] ∧
      Block.cut (Text.rawLines "```text\n```\n```x[/gone]\n```\n".toList) =
        [.code ⟨0, '`', 3, "text".toList, 3⟩ "```text\n".toList [] (some "```\n".toList),
          .code ⟨0, '`', 3, "x[/gone]".toList, 3⟩ "```x[/gone]\n".toList [] (some "```\n".toList)] ∧
      (render fencedDisk ['d'] (.new .empty []) "```text\n```\n```x[/gone]\n```\n".toList).1.report.length = 1 := by
  have hcut : Block.cut (Text.rawLines "```text[/f]\n```\n".toList) =
      [.code ⟨0, '`', 3, "text[/f]".toList, 3⟩ "```text[/f]\n".toList [] (some "```\n".toList)] :=
    (Block.partition_iff_forall.2 (by decide)).eq_cut.symm
  have hcut' : Block.cut (Text.rawLines "```text\n```\n```x[/gone]\n```\n".toList) =
      [.code ⟨0, '`', 3, "text".toList, 3⟩ "```text\n".toList [] (some "```\n".toList),
        .code ⟨0, '`', 3, "x[/gone]".toList, 3⟩ "```x[/gone]\n".toList [] (some "```\n".toList)] :=
    (Block.partition_iff_forall.2 (by decide)).eq_cut.symm
  refine ⟨?_, ?_, hcut', ?_⟩
  · rw [render_eq, hcut]
    rfl
  · rw [render_eq, hcut]
    rfl
  · rw [render_eq, hcut']
    rfl

/-- If all snippets read back, a rendered document stays as it is when it is rendered once more, in the session that
the first run began or left, and the second run reports the failures of the first one with the same messages and
columns. -/
theorem render_render [Backend] (disk : Files.Disk) (document : Text) (session : Session) (markdown : Text)
    (h : ∀ block ∈ Block.cut markdown.rawLines, Legible (answersOf disk (Path.directory? document) session) block) :
    ∃ failed again, (render disk document session markdown).1.report = session.report ++ failed ∧
      again.map unplaced = failed.map unplaced ∧
      ∀ next, next = session ∨ next = (render disk document session markdown).1 →
        (render disk document next (render disk document session markdown).2).2 =
          (render disk document session markdown).2 ∧
        (render disk document next (render disk document session markdown).2).1.report = next.report ++ again := by
  have hl := lawful_answersOf disk (Path.directory? document) session
  refine ⟨_, failures (answersOf disk (Path.directory? document) session) document 1
    ((Block.cut markdown.rawLines).map (rewritten (answersOf disk (Path.directory? document) session))),
    by rw [render_eq], map_unplaced_failures hl document 1 1 _, fun next hnext => ?_⟩
  have hagrees : Session.Agrees disk session next := by
    rcases hnext with rfl | rfl
    · exact .refl disk next
    · exact agrees_render disk document session markdown
  have hcut : Block.cut (render disk document session markdown).2.rawLines =
      (Block.cut markdown.rawLines).map (rewritten (answersOf disk (Path.directory? document) session)) := by
    rw [render_eq]
    exact (cut_rewritten_iff hl markdown).2 h
  rw [render_eq disk document next, hcut, answersOf_eq hagrees]
  refine ⟨?_, rfl⟩
  simp only [List.flatMap_map, rewritten_rewritten hl]
  rw [render_eq]

/-- A disk with one file, which has lines that could be fences of another kind. -/
def plainDisk : Files.Disk := ⟨.directory [(['f'], .file (.text "~~~\n\n  b".toList))], []⟩

/-- A document with lines that end in two ways, a directive that succeeds, one that fails, and a block that nothing
closes, in which the last line has no end. -/
def mixed : Text := "a\r\n ```text[/f]\r\n```\r\n~~~x[/gone]\n~~~\n``` c\nend".toList

theorem render_render_mixed :
    (∀ block ∈ Block.cut mixed.rawLines, Legible (answersOf plainDisk (Path.directory? ['d']) (.new .empty [])) block) ∧
      (render plainDisk ['d'] (render plainDisk ['d'] (.new .empty []) mixed).1
          (render plainDisk ['d'] (.new .empty []) mixed).2).2 =
        (render plainDisk ['d'] (.new .empty []) mixed).2 := by
  have hcut : Block.cut mixed.rawLines =
      [.plain "a\r\n".toList,
        .code ⟨1, '`', 3, "text[/f]".toList, 4⟩ " ```text[/f]\r\n".toList [] (some "```\r\n".toList),
        .code ⟨0, '~', 3, "x[/gone]".toList, 3⟩ "~~~x[/gone]\n".toList [] (some "~~~\n".toList),
        .code ⟨0, '`', 3, "c".toList, 4⟩ "``` c\n".toList ["end".toList] none] :=
    (Block.partition_iff_forall.2 (by decide)).eq_cut.symm
  have h : ∀ block ∈ Block.cut mixed.rawLines,
      Legible (answersOf plainDisk (Path.directory? ['d']) (.new .empty [])) block := by
    rw [hcut]
    decide
  obtain ⟨failed, again, -, -, hnext⟩ := render_render plainDisk ['d'] (.new .empty []) mixed h
  exact ⟨h, (hnext _ (.inr rfl)).1⟩

end Document

end Excerpt
