import Excerpt.Span
import Excerpt.Table

/-! # Index nodes

The index of a source file is a tree whose edges carry keys. A node holds the spans that the path to it
addresses, ascending by start and at most one for each start, and its children in ascending order of their
keys. `merge` is the union of two nodes; where two spans share a start, the left one stays. It takes the other
node apart, `mergeFrom` copies from one that stays in use. -/

namespace Excerpt

namespace Index

/-- A node of the index. -/
inductive Node where
  | mk (spans : List Span) (children : List (Text × Node))
deriving Repr, Inhabited

/-- Looks for a start in an ascending list by halving. It gives the place of a span with that start or, as an
error, the place where one belongs; places are counted from `low`. It unfolds, so that the index of a given file
is found by computation. -/
@[semireducible] def searchFrom (start low : Nat) (spans : List Span) : Except Nat Nat :=
  let half := spans.length / 2
  match h : spans.drop half with
  | [] => .error low
  | s :: above =>
    if start < s.start then searchFrom start low (spans.take half)
    else if start = s.start then .ok (low + half)
    else searchFrom start (low + half + 1) above
termination_by spans.length
decreasing_by
  all_goals
    have hlength := congrArg List.length h
    simp only [List.length_drop, List.length_cons, List.length_take] at hlength ⊢
    omega

/-- Adds a span to an ascending list, unless one with its start is there, and says whether it was added. -/
def offerSpan (span : Span) (spans : List Span) : Bool × List Span :=
  match searchFrom span.start 0 spans with
  | .ok _ => (false, spans)
  | .error place => (true, spans.take place ++ span :: spans.drop place)

/-- Adds a span to an ascending list, unless one with its start is there. -/
def insertSpan (span : Span) (spans : List Span) : List Span := (offerSpan span spans).2

namespace Node

/-- The spans that the path to the node addresses. -/
def spans : Node → List Span
  | .mk spans _ => spans

/-- The children with their keys. -/
def children : Node → List (Text × Node)
  | .mk _ children => children

/-- The node without spans and children. -/
def empty : Node := .mk [] []

/-- The child under a key. -/
def child? (node : Node) (key : Text) : Option Node := node.children.lookup key

/-- The keys of the children, ascending. -/
def keys (node : Node) : List Text := node.children.map Prod.fst

/-- Whether the node has no children. -/
def isLeaf (node : Node) : Bool := node.children.isEmpty

/-- Adds a span, unless one with its start is there, and says whether it was added. -/
def offerSpan (node : Node) (span : Span) : Bool × Node :=
  let offered := Index.offerSpan span node.spans
  (offered.1, .mk offered.2 node.children)

/-- Adds a span, unless one with its start is there. -/
def addSpan (node : Node) (span : Span) : Node := (node.offerSpan span).2

/-- Sets the child under a key to what `f` makes of it; if there is none, of the empty node. -/
def updateEntry (node : Node) (key : Text) (f : Node → Node) : Node :=
  .mk node.spans (Table.alter key (fun old => f (old.getD empty)) node.children)

mutual
/-- Number of nodes of the subtree. -/
def size : Node → Nat
  | .mk _ children => 1 + sizeAll children

/-- Number of nodes of several subtrees. -/
def sizeAll : List (Text × Node) → Nat
  | [] => 0
  | (_, node) :: rest => size node + sizeAll rest
end

mutual
/-- The union of two nodes; of two spans with one start the left one stays. -/
def merge (node : Node) : Node → Node
  | .mk spans children =>
    .mk (spans.foldl (fun acc span => insertSpan span acc) node.spans) (mergeChildren node.children children)

/-- The union of two lists of children. -/
def mergeChildren (left : List (Text × Node)) : List (Text × Node) → List (Text × Node)
  | [] => left
  | (key, node) :: rest =>
    mergeChildren
      (Table.alter key (fun old => match old with | none => node | some old => merge old node) left) rest
end

/-- Puts a node under a key; if there is a child already, the node is merged into it. -/
def insertChild (node : Node) (key : Text) (child : Node) : Node :=
  .mk node.spans
    (Table.alter key (fun old => match old with | none => child | some old => merge old child) node.children)

mutual
/-- The union of two nodes, of which the right one is copied from. -/
def mergeFrom (node : Node) : Node → Node
  | .mk spans children =>
    .mk (spans.foldl (fun acc span => insertSpan span acc) node.spans) (copyChildren node.children children)

/-- Copies children to a list of children; what is there under their keys is merged with them. -/
def copyChildren (left : List (Text × Node)) : List (Text × Node) → List (Text × Node)
  | [] => left
  | (key, node) :: rest =>
    copyChildren (match left.lookup key with
      | some old => Table.insert key (mergeFrom old node) left
      | none => Table.insert key node left) rest
end

/-- Copies `other` into the child under `key`. -/
def mergeAt (node : Node) (key : Text) (other : Node) : Node := node.updateEntry key (·.mergeFrom other)

/-- The node with one child and no spans. -/
def single (key : Text) (node : Node) : Node := empty.insertChild key node

/-- The node reached by a path of keys. -/
def walk? (node : Node) : List Text → Option Node
  | [] => some node
  | key :: rest => (node.child? key).bind fun next => walk? next rest

end Node

end Index

end Excerpt
