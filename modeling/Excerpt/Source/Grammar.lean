import Excerpt.Source.Derivation
import Excerpt.Source.Grammar.Declaration
import Excerpt.Source.Grammar.Expression
import Excerpt.Source.Grammar.Statement
import Excerpt.Source.Grammar.Type

/-! # The grammar of C#

`Grammar.file?` is the syntax tree of a source. `none` means that the source is malformed. -/

namespace Excerpt

namespace Source

namespace Grammar

/-- All rules. -/
def rules : RuleTable :=
  files ++ typeDeclarations ++ members ++ parameters ++ attributes ++ regions ++ preprocessor ++ names ++ types ++
    statements ++ expressions ++ creations ++ queries ++ patterns ++ literals

/-- The network of all rules. -/
def network : Network := Network.ofRules rules

/-- For each position the first one where a preprocessor line that is passed over there ends. -/
def skippedLines (columns : Array Column) : Std.HashMap Nat Nat :=
  ((List.range columns.size).zip columns.toList).foldl (fun all p =>
    (p.2.complete.getD Rule.skippedLine.ctorIdx []).foldl (fun all origin => all.insertIfNew origin p.1) all) ∅

/-- For each position from `position` on, where the next terminal starts. -/
def terminalStarts (skipped : Std.HashMap Nat Nat) (position : Nat) : Text → List Nat
  | [] => [position]
  | c :: t =>
    let later := terminalStarts skipped (position + 1) t
    let rest := c :: t
    let blanks := Terminal.blanks rest
    let target := match Terminal.commentLength? (rest.drop blanks) with
      | some n => some (position + blanks + n)
      | none => skipped.get? position
    let start := match target with
      | some i => later.getD (i - position - 1) i
      | none => position + blanks
    start :: later

/-- For each position from one that `bytes` bytes stand before on, the number of bytes before it. -/
def byteOffsets (bytes : Nat) : Text → List Nat
  | [] => [bytes]
  | c :: t => bytes :: byteOffsets (bytes + c.utf8Size) t

/-- The reading of a source. -/
def reading (source : Text) (columns : Array Column) : Reading :=
  { net := network
    columns
    starts := (terminalStarts (skippedLines columns) 0 source).toArray
    bytes := (byteOffsets 0 source).toArray }

/-- The syntax tree of a source, or `none` if the source is malformed. -/
def file? (source : Text) : Option Node :=
  let columns := Chart.ofSource network source
  (Chart.ending? columns source).map fun stop =>
    let reading := reading source columns
    let pieces := reading.pieces ⟨.file, 0, stop⟩
    .mk .file ⟨0, source.byteLength⟩ (pieces.flatMap (reading.nodes (stop + 1)))

end Grammar

end Source

end Excerpt
