import Excerpt.Document.Render
import Mathlib.Data.List.Basic

/-!
# What rendering changes

`Block.Partition` says how lines are cut into plain lines and code blocks, and `partition_iff` that `Block.cut` finds
the only such cut. `Meets` says what becomes of one block in a session, and `Run` of a list of them, each in the
session that the one before it leaves. `render_outcomes` puts the text and the report of a rendered document together
from the outcomes of its blocks.
-/

namespace Excerpt

namespace Block

/-- The lines are cut into plain lines and blocks; a block runs from the fence that opens it to the first line that
closes it, or to the end. -/
inductive Partition : List Text → List Block → Prop
  | nil : Partition [] []
  | plain {line : Text} {lines : List Text} {blocks : List Block} (h : Fence.ofLine? line = none)
      (hp : Partition lines blocks) : Partition (line :: lines) (.plain line :: blocks)
  | closed {fence : Fence} {first last : Text} {body lines : List Text} {blocks : List Block}
      (hf : Fence.ofLine? first = some fence) (hb : ∀ line ∈ body, ¬ fence.isClosedBy line)
      (hl : fence.isClosedBy last) (hp : Partition lines blocks) :
      Partition (first :: (body ++ last :: lines)) (.code fence first body (some last) :: blocks)
  | unclosed {fence : Fence} {first : Text} {body : List Text} (hf : Fence.ofLine? first = some fence)
      (hb : ∀ line ∈ body, ¬ fence.isClosedBy line) : Partition (first :: body) [.code fence first body none]

variable {fence : Fence} {body lines : List Text} {blocks : List Block} {last : Text}

theorem cutBody_closed (hb : ∀ line ∈ body, ¬ fence.isClosedBy line) (hl : fence.isClosedBy last)
    (lines : List Text) : cutBody fence (body ++ last :: lines) = (body, some last, lines) := by
  induction body with
  | nil => simp [cutBody, hl]
  | cons line body ih =>
    obtain ⟨h, hb⟩ := List.forall_mem_cons.1 hb
    simp [cutBody, h, ih hb]

theorem cutBody_unclosed (hb : ∀ line ∈ body, ¬ fence.isClosedBy line) : cutBody fence body = (body, none, []) := by
  induction body with
  | nil => rfl
  | cons line body ih =>
    obtain ⟨h, hb⟩ := List.forall_mem_cons.1 hb
    simp [cutBody, h, ih hb]

theorem partition_cut (lines : List Text) : Partition lines (cut lines) := by
  fun_induction cut lines with
  | case1 => exact .nil
  | case2 line rest h ih => exact .plain h ih
  | case3 line rest fence h hle ih =>
    -- the first line that closes the block, if there is one, says what `cutBody` returns
    cases hfind : rest.find? fence.isClosedBy with
    | none =>
      have hb : ∀ l ∈ rest, ¬ fence.isClosedBy l := List.find?_eq_none.1 hfind
      rw [cutBody_unclosed hb, cut]
      exact .unclosed h hb
    | some last =>
      obtain ⟨hl, body, lines, rfl, hb⟩ := List.find?_eq_some_iff_append.1 hfind
      have hb : ∀ l ∈ body, ¬ fence.isClosedBy l := fun l hm => by simpa using hb l hm
      rw [cutBody_closed hb hl] at ih ⊢
      exact .closed h hb hl ih

theorem Partition.eq_cut (h : Partition lines blocks) : blocks = cut lines := by
  induction h with
  | nil => rw [cut]
  | plain h _ ih => rw [cut, h, ih]
  | closed hf hb hl _ ih =>
    rw [cut, hf]
    simp only [cutBody_closed hb hl, ih]
  | unclosed hf hb =>
    rw [cut, hf]
    simp only [cutBody_unclosed hb]
    rw [cut]

theorem partition_iff : Partition lines blocks ↔ blocks = cut lines :=
  ⟨Partition.eq_cut, fun h => h ▸ partition_cut lines⟩

end Block

namespace Session

variable [Backend] (disk : Files.Disk) (session : Session) (report : List Failure) (directive : Directive)

theorem extractFrom_withReport (path : Text) :
    extractFrom disk { session with report := report } directive path =
      ({ (extractFrom disk session directive path).1 with report := report },
        (extractFrom disk session directive path).2) := by
  unfold extractFrom
  cases session.registry.resolve? directive.language with
  | none => rfl
  | some name =>
    have hcache : cache? { session with report := report } name = session.cache? name := rfl
    simp only [hcache]
    cases (session.cache? name).or ((session.registry.create? name).map fun _ => Cache.empty) <;> rfl

/-- Extraction neither reads the report nor changes it. -/
theorem extract_withReport (directory : Option Text) :
    extract disk { session with report := report } directive directory =
      ({ (extract disk session directive directory).1 with report := report },
        (extract disk session directive directory).2) := by
  unfold extract
  cases Target.resolve disk directive.path directory session.roots with
  | error e => rfl
  | ok path => simp only [extractFrom_withReport]

end Session

namespace Document

/-- What becomes of a block. -/
inductive Outcome where
  | kept
  | replaced (text : Text)
  | failed (error : ExtractError) (column : Nat)

/-- The text that stands in place of the block. -/
def Outcome.text (block : Block) : Outcome → Text
  | replaced text => text
  | _ => block.lines.flatten

/-- In the session, the block has the outcome and leaves the other session; failures are not recorded here. -/
inductive Meets [Backend] (disk : Files.Disk) (directory : Option Text) : Session → Block → Outcome → Session → Prop
  | plain {session : Session} {line : Text} : Meets disk directory session (.plain line) .kept session
  | ordinary {session : Session} {fence : Fence} {first : Text} {body : List Text} {last : Option Text}
      (hd : '[' ∉ fence.info) : Meets disk directory session (.code fence first body last) .kept session
  | unparsed {session : Session} {fence : Fence} {first : Text} {body : List Text} {last : Option Text}
      (hd : '[' ∈ fence.info) (hp : Directive.parse? fence.info = none) :
      Meets disk directory session (.code fence first body last)
        (.failed (.invalidDirective fence.info) (columnOf first fence.infoOffset)) session
  | failed {session session' : Session} {fence : Fence} {first : Text} {body : List Text} {last : Option Text}
      {directive : Directive} {error : ExtractError} (hd : '[' ∈ fence.info)
      (hp : Directive.parse? fence.info = some directive)
      (he : session.extract disk directive directory = (session', .error error)) :
      Meets disk directory session (.code fence first body last)
        (.failed error (columnOf first (fence.infoOffset + directive.selectorOffset))) session'
  | replaced {session session' : Session} {fence : Fence} {first : Text} {body : List Text} {last : Option Text}
      {directive : Directive} {excerpt : Excerpted} (hd : '[' ∈ fence.info)
      (hp : Directive.parse? fence.info = some directive)
      (he : session.extract disk directive directory = (session', .ok excerpt)) :
      Meets disk directory session (.code fence first body last)
        (.replaced (blockOf fence excerpt ++ if endsLine last then ['\n'] else [])) session'

/-- A block, the number of its first line, and its outcome. -/
structure Result where
  line : Nat
  block : Block
  outcome : Outcome

namespace Result

def text (result : Result) : Text := result.outcome.text result.block

/-- What a block that failed adds to the report. -/
def failure? (document : Text) (result : Result) : Option Failure :=
  match result.outcome with
  | .failed error column => some ⟨document, error.message, result.line, column⟩
  | _ => none

end Result

/-- Every block has its outcome in the session that the blocks before it leave. -/
inductive Run [Backend] (disk : Files.Disk) (directory : Option Text) : Session → List Result → Session → Prop
  | nil {session : Session} : Run disk directory session [] session
  | cons {session session' final : Session} {result : Result} {rest : List Result}
      (h : Meets disk directory session result.block result.outcome session')
      (hrest : Run disk directory session' rest final) : Run disk directory session (result :: rest) final

/-- Every result has the number of the line after those before it, of which the first has the given number. -/
def Numbered (number : Nat) (results : List Result) : Prop :=
  ∀ before result after, results = before ++ result :: after →
    result.line = number + (before.flatMap (·.block.lines)).length

variable (disk : Files.Disk) (document : Text)

theorem renderBlock_outcome [Backend] (session : Session) (report : List Failure) (number : Nat) (block : Block) :
    ∃ outcome session', Meets disk (Path.directory? document) session block outcome session' ∧
      renderBlock disk document { session with report := report } number block =
        ({ session' with report := report ++ (Result.failure? document ⟨number, block, outcome⟩).toList },
          outcome.text block) := by
  cases block with
  | plain line => exact ⟨.kept, session, .plain, by simp [renderBlock, Result.failure?, Outcome.text, Block.lines]⟩
  | code fence first body last =>
    by_cases hd : '[' ∈ fence.info
    · have hdir : isDirective fence = true := by simpa [isDirective] using hd
      cases hp : Directive.parse? fence.info with
      | none =>
        exact ⟨_, session, .unparsed hd hp,
          by simp [renderBlock, hdir, excerptOf, hp, Result.failure?, Outcome.text, Session.record]⟩
      | some directive =>
        have hex := Session.extract_withReport disk session report directive (Path.directory? document)
        rcases he : session.extract disk directive (Path.directory? document) with ⟨session', error | excerpt⟩
        · refine ⟨_, session', .failed hd hp he, ?_⟩
          simp [renderBlock, hdir, excerptOf, hp, hex, he, Except.mapError, Result.failure?, Outcome.text,
            Session.record]
        · refine ⟨_, session', .replaced hd hp he, ?_⟩
          simp [renderBlock, hdir, excerptOf, hp, hex, he, Except.mapError, Result.failure?, Outcome.text]
    · have hdir : isDirective fence = false := by simpa [isDirective] using hd
      exact ⟨.kept, session, .ordinary hd, by simp [renderBlock, hdir, Result.failure?, Outcome.text]⟩

theorem Numbered.cons {number : Nat} {result : Result} {rest : List Result} (h : result.line = number)
    (hrest : Numbered (number + result.block.lines.length) rest) : Numbered number (result :: rest) := by
  intro before r after hs
  cases before with
  | nil =>
    obtain ⟨rfl, -⟩ := List.cons.inj hs
    simpa using h
  | cons r' before =>
    obtain ⟨rfl, hs'⟩ := List.cons.inj hs
    rw [hrest before r after hs', List.flatMap_cons, List.length_append, Nat.add_assoc]

theorem renderBlocks_outcomes [Backend] (session : Session) (report : List Failure) (number : Nat)
    (blocks : List Block) :
    ∃ results final, results.map Result.block = blocks ∧ Numbered number results ∧
      Run disk (Path.directory? document) session results final ∧
      renderBlocks disk document { session with report := report } number blocks =
        ({ final with report := report ++ results.filterMap (Result.failure? document) },
          results.flatMap Result.text) := by
  induction blocks generalizing session report number with
  | nil => exact ⟨[], session, rfl, by simp [Numbered], .nil, by simp [renderBlocks]⟩
  | cons block rest ih =>
    obtain ⟨outcome, session', hm, hb⟩ := renderBlock_outcome disk document session report number block
    obtain ⟨results, final, hmap, hnum, hrun, hr⟩ := ih session'
      (report ++ (Result.failure? document ⟨number, block, outcome⟩).toList) (number + block.lines.length)
    refine ⟨⟨number, block, outcome⟩ :: results, final, by simp [hmap], hnum.cons rfl, .cons hm hrun, ?_⟩
    simp only [renderBlocks, hb, hr, List.append_assoc, List.flatMap_cons, Result.text, List.filterMap_cons]
    cases Result.failure? document ⟨number, block, outcome⟩ <;> rfl

theorem flatMap_text_of_not_replaced {results : List Result}
    (h : ∀ result ∈ results, ∀ text, result.outcome ≠ .replaced text) :
    results.flatMap Result.text = ((results.map Result.block).flatMap Block.lines).flatten := by
  induction results with
  | nil => rfl
  | cons result rest ih =>
    obtain ⟨hr, hrest⟩ := List.forall_mem_cons.1 h
    have htext : result.text = result.block.lines.flatten := by
      unfold Result.text Outcome.text
      split
      next text ho => exact absurd ho (hr text)
      next => rfl
    simp only [List.flatMap_cons, List.map_cons, List.flatten_append, htext, ih hrest]

/-- The lines of a document have one partition into blocks. The rendered text is made of the texts of the blocks, where
only a directive that succeeds replaces its own, so without one the document is unchanged; the report grows by one
failure for each directive that fails, in order, with the number of the line that opens its block. -/
theorem render_outcomes [Backend] (session : Session) (markdown : Text) :
    ∃ results final, (∀ blocks, Block.Partition markdown.rawLines blocks ↔ blocks = results.map Result.block) ∧
      Numbered 1 results ∧ Run disk (Path.directory? document) session results final ∧
      (render disk document session markdown).2 = results.flatMap Result.text ∧
      (render disk document session markdown).1 =
        { final with report := session.report ++ results.filterMap (Result.failure? document) } ∧
      ((∀ result ∈ results, ∀ text, result.outcome ≠ .replaced text) →
        (render disk document session markdown).2 = markdown) := by
  obtain ⟨results, final, hmap, hnum, hrun, h⟩ :=
    renderBlocks_outcomes disk document session session.report 1 (Block.cut markdown.rawLines)
  have hr : render disk document session markdown = _ := h
  refine ⟨results, final, fun blocks => ?_, hnum, hrun, by rw [hr], by rw [hr], fun hkept => ?_⟩
  · rw [hmap]
    exact Block.partition_iff
  · rw [hr]
    show results.flatMap Result.text = markdown
    rw [flatMap_text_of_not_replaced hkept, hmap, Block.flatMap_lines_cut, Text.flatten_rawLines]

end Document

end Excerpt
