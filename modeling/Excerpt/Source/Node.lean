import Excerpt.Span
import Excerpt.Text.Basic

/-! # Concrete syntax

A node of the concrete syntax tree of a C# file has a kind, a span and its children in source order. Nodes
that do not matter for addressing members, such as statements and expressions, are left out; names and types
are nodes without children, and their text is looked up in the source. What a node is for its parent, such as
its body or its list of parameters, is told by its kind, so a child is looked for in one way only. -/

namespace Excerpt

namespace Source

/-- What a node of the syntax tree stands for. -/
inductive NodeKind where
  | file
  | namespaceBlock
  /-- A namespace for the rest of the file: `namespace Name;`. -/
  | namespaceLine
  | classDecl
  | structDecl
  | interfaceDecl
  | recordDecl
  | enumDecl
  | enumMember
  | field
  | eventField
  | property
  | event
  | indexer
  | accessor
  | method
  | constructor
  | destructor
  | memberList
  | enumMemberList
  | accessorList
  /-- What stands under an `#if`, `#elif` or `#else`. -/
  | region
  | declarators
  | declarator
  | parameters
  | parameter
  | typeParameters
  | typeParameter
  | name
  | type
  /-- A name that is not marked as that of its parent. -/
  | identifier
  /-- A keyword that can stand for the name of an accessor. -/
  | keyword
deriving DecidableEq, Repr, Inhabited

/-- A node of the syntax tree. -/
inductive Node where
  | mk (kind : NodeKind) (span : Span) (children : List Node)
deriving Repr, Inhabited

namespace Node

/-- What the node stands for. -/
def kind : Node → NodeKind
  | .mk kind _ _ => kind

/-- The part of the source that the node covers. -/
def span : Node → Span
  | .mk _ span _ => span

/-- The nodes inside the node, in source order. -/
def children : Node → List Node
  | .mk _ _ children => children

/-- A node without children. -/
def leaf (kind : NodeKind) (span : Span) : Node := .mk kind span []

/-- The first child of a kind. -/
def child? (node : Node) (kind : NodeKind) : Option Node := node.children.find? (·.kind = kind)

/-- The last child of a kind. -/
def lastChild? (node : Node) (kind : NodeKind) : Option Node := (node.children.filter (·.kind = kind)).getLast?

/-- The source text of the node. -/
def text (source : Text) (node : Node) : Text := Text.slice node.span.start node.span.stop source

end Node

end Source

end Excerpt
