import Excerpt.Backend
import Excerpt.Declaration
import Excerpt.Text.Blank

/-! # The members of a source

`Members.ofNode` reads the declaration tree off the syntax tree. Member lists and conditional regions are
passed through. A namespace for the rest of the file has no body: the nodes that follow it in the same
container become its members, and its span runs to the end of the file. -/

namespace Excerpt

namespace Source

namespace Members

/-- The node that names a node. If none is marked as its name, it is the last identifier, since attributes come
first, and for an accessor the keyword. -/
def nameNode? (node : Node) : Option Node :=
  (node.child? .name).or (if node.kind = .accessor then node.child? .keyword else node.lastChild? .identifier)

/-- The name of a node. -/
def name? (source : Text) (node : Node) : Option Text := (nameNode? node).map fun n => (n.text source).trim

/-- The names of the type parameters of a node. -/
def typeParameters (source : Text) (node : Node) : List Text :=
  match node.child? .typeParameters with
  | none => []
  | some list => (list.children.filter (·.kind = .typeParameter)).filterMap (name? source)

/-- The type of a parameter without blank characters; what stands before the name if it has no type. -/
def parameterType (source : Text) (parameter : Node) : Text :=
  match parameter.child? .type with
  | some type => (type.text source).squeeze
  | none =>
    let stop := match parameter.child? .name with
      | some name => name.span.start
      | none => parameter.span.stop
    (Text.slice parameter.span.start stop source).squeeze

/-- The types of the parameters of a node. -/
def parameterTypes (source : Text) (node : Node) : List Text :=
  match node.child? .parameters with
  | none => []
  | some list => (list.children.filter (·.kind = .parameter)).map (parameterType source)

/-- One declaration for each named declarator, with the span of the whole node. -/
def declarators (source : Text) (kind : DeclarationKind) (node : Node) : List Declaration :=
  match node.child? .declarators with
  | none => []
  | some list =>
    ((list.children.filter (·.kind = .declarator)).filterMap (name? source)).map fun name =>
      ⟨kind, name, [], [], node.span, []⟩

/-- The kind of a type declaration. -/
def typeKind? : NodeKind → Option DeclarationKind
  | .classDecl => some .classDecl
  | .structDecl => some .structDecl
  | .interfaceDecl => some .interfaceDecl
  | .recordDecl => some .recordDecl
  | .enumDecl => some .enumDecl
  | _ => none

/-- The name of a namespace, without blank characters. -/
def namespaceName (source : Text) (node : Node) : Text :=
  ((node.child? .name).map fun n => (n.text source).squeeze).getD []

mutual
/-- The declarations of a node. A namespace without a body holds what its node holds. -/
def declarations (source : Text) : Node → List Declaration
  | .mk kind span children =>
    let node : Node := .mk kind span children
    match kind with
    | .namespaceBlock | .namespaceLine =>
      [⟨.namespaceDecl, namespaceName source node, [], [], span,
        (bodyMembers? source (· = .memberList) children).getD (members source children)⟩]
    | .enumMember => ((name? source node).map fun name => ⟨.enumMember, name, [], [], span, []⟩).toList
    | .field => declarators source .field node
    | .eventField => declarators source .event node
    | .property =>
      ((name? source node).map fun name =>
        ⟨.property, name, [], [], span, (bodyMembers? source (· = .accessorList) children).getD []⟩).toList
    | .event =>
      ((name? source node).map fun name =>
        ⟨.event, name, [], [], span, (bodyMembers? source (· = .accessorList) children).getD []⟩).toList
    | .indexer =>
      [⟨.indexer, [], [], parameterTypes source node, span,
        (bodyMembers? source (· = .accessorList) children).getD []⟩]
    | .accessor => ((name? source node).map fun name => ⟨.accessor, name, [], [], span, []⟩).toList
    | .method =>
      ((name? source node).map fun name =>
        ⟨.method, name, typeParameters source node, parameterTypes source node, span, []⟩).toList
    | .constructor => [⟨.constructor, [], [], [], span, []⟩]
    | .destructor => [⟨.destructor, [], [], [], span, []⟩]
    | .memberList | .enumMemberList | .accessorList | .region => members source children
    | _ =>
      match typeKind? kind, name? source node with
      | some declared, some name =>
        [⟨declared, name, typeParameters source node, [], span,
          (bodyMembers? source (fun k => k = .memberList || k = .enumMemberList) children).getD []⟩]
      | _, _ => []
termination_by structural node => node

/-- The declarations of the nodes of a container. -/
def members (source : Text) : List Node → List Declaration
  | [] => []
  | .mk .namespaceLine span children :: rest =>
    let name := namespaceName source (.mk .namespaceLine span children)
    let inner := (bodyMembers? source (· = .memberList) children).getD (members source children)
    let whole : Span := ⟨span.start, source.byteLength⟩
    if inner.isEmpty then [⟨.namespaceDecl, name, [], [], whole, siblings source rest⟩]
    else ⟨.namespaceDecl, name, [], [], whole, inner⟩ :: members source rest
  | node :: rest => declarations source node ++ members source rest
termination_by structural nodes => nodes

/-- The declarations of the nodes that follow a namespace for the rest of the file. -/
def siblings (source : Text) : List Node → List Declaration
  | [] => []
  | node :: rest => declarations source node ++ siblings source rest
termination_by structural nodes => nodes

/-- The declarations inside the first of the nodes whose kind satisfies `p`. -/
def bodyMembers? (source : Text) (p : NodeKind → Bool) : List Node → Option (List Declaration)
  | [] => none
  | .mk kind _ children :: rest => if p kind then some (members source children) else bodyMembers? source p rest
termination_by structural nodes => nodes
end

/-- The declaration tree of a syntax tree. -/
def ofNode (source : Text) (file : Node) : DeclarationTree :=
  DeclarationTree.ofLength source.byteLength (members source file.children)

end Members

/-- The declaration tree of a source. -/
def declarationTree [Backend] (source : Text) : DeclarationTree := Members.ofNode source (Backend.parse source)

end Source

end Excerpt
