import Excerpt.Document.Fence
import Excerpt.Session

/-! # Rendering a document

A code block whose fence carries a directive is replaced by a block with the snippet that the directive asks
for. A directive that fails leaves its block as it is and is recorded with its line and column. All else is
kept byte for byte. -/

namespace Excerpt

namespace Document

/-- Whether the fence carries a directive. -/
def isDirective (fence : Fence) : Bool := fence.info.contains '['

/-- The directive that a block carries. -/
def directive? : Block → Option Directive
  | .plain _ => none
  | .code fence _ _ _ => if isDirective fence then Directive.parse? fence.info else none

/-- What stands after the fence of a block with a snippet. -/
def infoOf (excerpt : Excerpted) : Text :=
  if excerpt.highlights.isEmpty then excerpt.language
  else
    excerpt.language ++ " \x7b".toList ++ Text.joinWith [','] (excerpt.highlights.map Text.ofNat) ++
      "\x7d".toList

/-- The fence without what stands after it. -/
def fenceText (fence : Fence) : Text :=
  List.replicate fence.indent ' ' ++ List.replicate fence.width fence.marker

/-- A line of a snippet as the block shows it. -/
def bodyLine (fence : Fence) (line : Text) : Text :=
  if line.isEmpty then ['\n'] else List.replicate fence.indent ' ' ++ line ++ ['\n']

/-- The block with a snippet, without the line end after its last fence. -/
def blockOf (fence : Fence) (excerpt : Excerpted) : Text :=
  fenceText fence ++ infoOf excerpt ++ '\n' :: (excerpt.text.lines.flatMap (bodyLine fence)) ++ fenceText fence

/-- The excerpt that a fence asks for, or the failure with its byte offset in the line of the fence. -/
def excerptOf [Backend] (disk : Files.Disk) (session : Session) (directory : Option Text) (fence : Fence) :
    Session × Except (ExtractError × Nat) Excerpted :=
  match Directive.parse? fence.info with
  | none => (session, .error (.invalidDirective fence.info, fence.infoOffset))
  | some directive =>
    let (session, result) := session.extract disk directive directory
    (session, result.mapError fun e => (e, fence.infoOffset + directive.selectorOffset))

/-- The column of a byte offset in a line. -/
def columnOf (line : Text) (offset : Nat) : Nat := (Text.takeBytes offset line).length + 1

/-- Whether a line end follows the last fence of a block with a snippet. -/
def endsLine (last : Option Text) : Bool :=
  match last with
  | some line => line.getLast? == some '\n'
  | none => true

/-- Renders one block, which starts at the given line number. -/
def renderBlock [Backend] (disk : Files.Disk) (document : Text) (session : Session) (number : Nat) (block : Block) :
    Session × Text :=
  match block with
  | .plain line => (session, line)
  | .code fence first _ last =>
    if isDirective fence then
      match excerptOf disk session (Path.directory? document) fence with
      | (session, .ok excerpt) => (session, blockOf fence excerpt ++ (if endsLine last then ['\n'] else []))
      | (session, .error (e, offset)) =>
        (session.record ⟨document, e.message, number, columnOf first offset⟩, block.lines.flatten)
    else (session, block.lines.flatten)

/-- Renders blocks, the first of which starts at the given line number. -/
def renderBlocks [Backend] (disk : Files.Disk) (document : Text) (session : Session) (number : Nat) :
    List Block → Session × Text
  | [] => (session, [])
  | block :: rest =>
    let (session, text) := renderBlock disk document session number block
    let (session, texts) := renderBlocks disk document session (number + block.lines.length) rest
    (session, text ++ texts)

/-- Renders a document: its text with every directive that succeeds replaced by its snippet. -/
def render [Backend] (disk : Files.Disk) (document : Text) (session : Session) (markdown : Text) : Session × Text :=
  renderBlocks disk document session 1 (Block.cut markdown.rawLines)

end Document

end Excerpt
