import Excerpt.Proofs.Rendering
import Excerpt.Proofs.SessionMemory

/-!
# Rendering block by block

While a document is rendered the disk stays the same, so the answer to a directive does not depend on the directives
before it. `Document.answersOf` gives the answers of a session to all fences at once. With them a document is rendered
block by block: `rewritten` says which block stands in place of another one and `failures` what is reported
(`render_eq`). The session that rendering leaves has served the directives of the document in order.
-/

namespace Excerpt

namespace Session
variable [Backend] (disk : Files.Disk) (directory : Option Text)

theorem report_extract (session : Session) (directive : Directive) :
    (session.extract disk directive directory).1.report = session.report :=
  congrArg (fun p => p.1.report) (extract_withReport disk session session.report directive directory)

/-- The session after it has served the directives in order. -/
def serve (session : Session) (directives : List Directive) : Session :=
  directives.foldl (fun session directive => (session.extract disk directive directory).1) session

theorem serve_append (session : Session) (directives directives' : List Directive) :
    serve disk directory session (directives ++ directives') =
      serve disk directory (serve disk directory session directives) directives' :=
  List.foldl_append

theorem serve_withReport (session : Session) (report : List Failure) (directives : List Directive) :
    serve disk directory { session with report := report } directives =
      { serve disk directory session directives with report := report } := by
  induction directives generalizing session with
  | nil => rfl
  | cons directive rest ih =>
    show serve disk directory (extract disk { session with report := report } directive directory).1 rest = _
    rw [extract_withReport]
    exact ih _

theorem agrees_serve (session : Session) (directives : List Directive) :
    Agrees disk session (serve disk directory session directives) := by
  induction directives generalizing session with
  | nil => exact .refl disk session
  | cons directive rest ih => exact (agrees_extract disk session directive directory).trans (ih _)

theorem agrees_withReport (session : Session) (report : List Failure) :
    Agrees disk session { session with report := report } := ⟨rfl, rfl, fun _ => rfl, fun _ _ _ => rfl⟩

end Session

namespace Document

/-- What the directives of fences are answered: the excerpt, or the failure with its byte offset in the line. -/
abbrev Answers := Fence → Except (ExtractError × Nat) Excerpted

/-- The answers of a session. -/
def answersOf [Backend] (disk : Files.Disk) (directory : Option Text) (session : Session) : Answers :=
  fun fence => (excerptOf disk session directory fence).2

/-- The fence of a block with a snippet. -/
def writtenFence (fence : Fence) (excerpt : Excerpted) : Fence :=
  { fence with
    info := Text.trim (infoOf excerpt)
    infoOffset := fence.indent + fence.width + Text.byteLength (Text.indentation (infoOf excerpt)) }

/-- The block that a snippet is shown in, in place of one that ends with the given line. -/
def written (fence : Fence) (excerpt : Excerpted) (last : Option Text) : Block :=
  .code (writtenFence fence excerpt) (fenceText fence ++ infoOf excerpt ++ ['\n'])
    (excerpt.text.lines.map (bodyLine fence)) (some (fenceText fence ++ if endsLine last then ['\n'] else []))

/-- The block that stands in place of a block. -/
def rewritten (answers : Answers) : Block → Block
  | .plain line => .plain line
  | .code fence first body last =>
    if isDirective fence then
      match answers fence with
      | .ok excerpt => written fence excerpt last
      | .error _ => .code fence first body last
    else .code fence first body last

/-- What is reported of a block that starts at the given line number. -/
def failure? (answers : Answers) (document : Text) (number : Nat) : Block → Option Failure
  | .plain _ => none
  | .code fence first _ _ =>
    if isDirective fence then
      match answers fence with
      | .ok _ => none
      | .error (e, offset) => some ⟨document, e.message, number, columnOf first offset⟩
    else none

/-- What is reported of blocks, the first of which starts at the given line number. -/
def failures (answers : Answers) (document : Text) (number : Nat) : List Block → List Failure
  | [] => []
  | block :: rest =>
    (failure? answers document number block).toList ++ failures answers document (number + block.lines.length) rest

variable {disk : Files.Disk} {document : Text} {directory : Option Text} {session later : Session}

theorem flatten_written (fence : Fence) (excerpt : Excerpted) (last : Option Text) :
    (written fence excerpt last).lines.flatten =
      blockOf fence excerpt ++ if endsLine last then ['\n'] else [] := by
  simp [written, Block.lines, blockOf, List.flatMap_def]

theorem answersOf_eq [Backend] (h : Session.Agrees disk session later) :
    answersOf disk directory later = answersOf disk directory session := by
  funext fence
  unfold answersOf excerptOf
  cases Directive.parse? fence.info with
  | none => rfl
  | some directive => simp only [h.extract_eq]

theorem renderBlock_eq [Backend] (h : Session.Agrees disk session later) (number : Nat) (block : Block) :
    renderBlock disk document later number block =
      ({ Session.serve disk (Path.directory? document) later (directive? block).toList with
          report := later.report ++
            (failure? (answersOf disk (Path.directory? document) session) document number block).toList },
        (rewritten (answersOf disk (Path.directory? document) session) block).lines.flatten) := by
  rw [← answersOf_eq h]
  cases block with
  | plain line => simp [renderBlock, rewritten, failure?, directive?, Session.serve, Block.lines]
  | code fence first body last =>
    by_cases hd : isDirective fence
    · cases hp : Directive.parse? fence.info with
      | none =>
        simp [renderBlock, rewritten, failure?, directive?, Session.serve, answersOf, excerptOf, hd, hp, Session.record]
      | some directive =>
        rcases he : later.extract disk directive (Path.directory? document) with ⟨session', answer⟩
        have hr : session'.report = later.report := by
          rw [← Session.report_extract disk (Path.directory? document) later directive, he]
        cases answer with
        | error e =>
          simp [renderBlock, rewritten, failure?, directive?, Session.serve, answersOf, excerptOf, hd, hp, he,
            Except.mapError, Session.record, hr]
        | ok excerpt =>
          simp [renderBlock, rewritten, failure?, directive?, Session.serve, answersOf, excerptOf, hd, hp, he,
            Except.mapError, flatten_written, ← hr]
    · simp [renderBlock, rewritten, failure?, directive?, Session.serve, hd]

theorem renderBlocks_eq [Backend] (h : Session.Agrees disk session later) (number : Nat) (blocks : List Block) :
    renderBlocks disk document later number blocks =
      ({ Session.serve disk (Path.directory? document) later (blocks.filterMap directive?) with
          report := later.report ++
            failures (answersOf disk (Path.directory? document) session) document number blocks },
        (blocks.flatMap fun block =>
          (rewritten (answersOf disk (Path.directory? document) session) block).lines).flatten) := by
  induction blocks generalizing later number with
  | nil => simp [renderBlocks, failures, Session.serve]
  | cons block rest ih =>
    have hagrees := (h.trans (Session.agrees_serve disk (Path.directory? document) later
      (directive? block).toList)).trans (Session.agrees_withReport disk _ (later.report ++
        (failure? (answersOf disk (Path.directory? document) session) document number block).toList))
    simp only [renderBlocks, renderBlock_eq h, ih hagrees, Session.serve_withReport, failures, List.append_assoc,
      List.flatMap_cons, List.flatten_append, List.filterMap_cons]
    cases directive? block <;> rfl

/-- A document is rendered block by block, with the answers of the session as it was at the start. -/
theorem render_eq [Backend] (disk : Files.Disk) (document : Text) (session : Session) (markdown : Text) :
    render disk document session markdown =
      ({ Session.serve disk (Path.directory? document) session
            ((Block.cut markdown.rawLines).filterMap directive?) with
          report := session.report ++
            failures (answersOf disk (Path.directory? document) session) document 1 (Block.cut markdown.rawLines) },
        ((Block.cut markdown.rawLines).flatMap fun block =>
          (rewritten (answersOf disk (Path.directory? document) session) block).lines).flatten) :=
  renderBlocks_eq (.refl disk session) 1 (Block.cut markdown.rawLines)

theorem agrees_render [Backend] (disk : Files.Disk) (document : Text) (session : Session) (markdown : Text) :
    Session.Agrees disk session (render disk document session markdown).1 := by
  rw [render_eq]
  exact (Session.agrees_serve disk _ session _).trans (Session.agrees_withReport disk _ _)

end Document

end Excerpt
