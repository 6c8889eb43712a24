import Excerpt.Source.Chart

/-! # Derivations

`Reading.nodes` reads the nodes of the syntax tree off a chart. Where a source can be read in several ways, the
form that is written first in the grammar counts, and of several pieces that end at the same position the
shortest is taken. -/

namespace Excerpt

namespace Source

/-- A chart with what it was made from, ready to be read. -/
structure Reading where
  net : Network
  columns : Array Column
  /-- For each position, where the next terminal after it starts. -/
  starts : Array Nat
  /-- For each position, the number of bytes before it. -/
  bytes : Array Nat
deriving Inhabited

/-- A rule that was used to read a piece of the source. -/
structure Piece where
  rule : Rule
  start : Nat
  stop : Nat
deriving DecidableEq, Repr, Inhabited

namespace Reading

/-- The column at a position. -/
def column (reading : Reading) (position : Nat) : Column := reading.columns.getD position .empty

/-- The span from the first terminal after one position to another position. -/
def span (reading : Reading) (start stop : Nat) : Span :=
  ⟨reading.bytes.getD (reading.starts.getD start start) 0, reading.bytes.getD stop 0⟩

/-- The first place of a list whose item, begun at `origin`, has come to a position. -/
def firstItem? (reading : Reading) (origin position : Nat) (places : List Nat) : Option Nat :=
  (places.filter fun place => (reading.column position).items.contains ⟨place, origin⟩).min?

/-- The places of a rule, in the order in which they are written. -/
def placesOf (reading : Reading) (rule : Rule) : List Nat :=
  (List.range reading.net.mentions.size).filter fun place => reading.net.owner place = rule

/-- The positions at which what is mentioned at a place of an item can begin if it ends at `stop`, the last
first. -/
def beginnings (reading : Reading) (item : Item) (stop : Nat) : List Nat :=
  match reading.net.mention item.place with
  | .terminal _ => (reading.column stop).scanned.getD item []
  | .rule rule =>
    let origins := (reading.column stop).complete.getD rule.ctorIdx []
    let origins := origins.filter fun i => ((reading.column i).waitingFor rule).contains item
    origins.mergeSort fun a b => b ≤ a

/-- The pieces up to `stop` of a reading that has come past a place there, in at most `fuel` steps. -/
def piecesTo (reading : Reading) (places : List Nat) (origin fuel stop place : Nat)
    (after : List Piece) : List Piece :=
  match fuel with
  | 0 => after
  | fuel + 1 =>
    match beginnings reading ⟨place, origin⟩ stop with
    | [] => after
    | start :: _ =>
      let after := match reading.net.mention place with
        | .rule mentioned => ⟨mentioned, start, stop⟩ :: after
        | .terminal _ => after
      let earlier := places.filter fun p => (reading.net.follow p).contains place
      match firstItem? reading origin start earlier with
      | some p => piecesTo reading places origin fuel start p after
      | none => after

/-- The pieces that a piece is made of. -/
def pieces (reading : Reading) (piece : Piece) : List Piece :=
  let places := reading.placesOf piece.rule
  match firstItem? reading piece.start piece.stop (places.filter reading.net.isEnding) with
  | some place => piecesTo reading places piece.start (piece.stop + 2) piece.stop place []
  | none => []

/-- The nodes of a piece, with at most `fuel` pieces inside each other. -/
def nodes (reading : Reading) (fuel : Nat) (piece : Piece) : List Node :=
  match fuel with
  | 0 => []
  | fuel + 1 =>
    let span := reading.span piece.start piece.stop
    match piece.rule.role with
    | .passed => []
    | .leaf kind => [.leaf kind span]
    | .through => (reading.pieces piece).flatMap (nodes reading fuel)
    | .branch kind => [.mk kind span ((reading.pieces piece).flatMap (nodes reading fuel))]

end Reading

end Source

end Excerpt
