import Excerpt.Source.Members
import Mathlib.Tactic.MkIffOfInductiveProp

/-!
# What the member walk reads off a node

`Node.Everywhere` carries a condition on single nodes to a whole syntax tree, and `Node.Proper` is what the nodes of a
well-formed source satisfy. Of such a node `Members.Yields` says what it adds to the declarations: nothing, declarations
without members, one declaration with the members of a body, or the members of a container. `members_cases` says the
same of the nodes of a container, where a namespace for the rest of the file takes all that follows.
-/

namespace Excerpt

namespace Source

namespace NodeKind

/-- Whether a node of the kind declares something that can be addressed. -/
def isDeclaration : NodeKind → Bool
  | .namespaceBlock | .namespaceLine | .classDecl | .structDecl | .interfaceDecl | .recordDecl | .enumDecl
  | .enumMember | .field | .eventField | .property | .event | .indexer | .accessor | .method | .constructor
  | .destructor => true
  | _ => false

/-- Whether a node of the kind holds the members of the declaration that it belongs to. -/
def isBody : NodeKind → Bool
  | .memberList | .enumMemberList | .accessorList => true
  | _ => false

end NodeKind

namespace Node

/-- The condition holds of the node and of all nodes inside it. -/
inductive Everywhere (P : Node → Prop) : Node → Prop
  | mk {node : Node} (h : P node) (hc : ∀ child ∈ node.children, Everywhere P child) : Everywhere P node

namespace Everywhere
variable {P : Node → Prop} {node : Node}

theorem here (h : node.Everywhere P) : P node := by
  cases h with
  | mk h _ => exact h

theorem children (h : node.Everywhere P) : ∀ child ∈ node.children, child.Everywhere P := by
  cases h with
  | mk _ hc => exact hc

theorem mk_iff {kind : NodeKind} {span : Span} {children : List Node} :
    (Node.mk kind span children).Everywhere P ↔ P (.mk kind span children) ∧ ∀ child ∈ children, child.Everywhere P :=
  ⟨fun h => ⟨h.here, h.children⟩, fun ⟨h, hc⟩ => .mk h hc⟩

end Everywhere

/-- What a node is like in the syntax tree of a well-formed source. -/
@[mk_iff]
structure Proper (node : Node) : Prop where
  inside : ∀ child ∈ node.children, node.span.start ≤ child.span.start ∧ child.span.stop ≤ node.span.stop
  apart : node.children.Pairwise fun a b => a.span.stop ≤ b.span.start
  nonempty : node.kind.isDeclaration → node.span.start < node.span.stop
  /-- A namespace for the rest of the file holds only its name. -/
  line : node.kind = .namespaceLine → ∀ child ∈ node.children, child.kind = .name
  block : node.kind = .namespaceBlock → ∃ child ∈ node.children, child.kind = .memberList
  body : node.kind.isDeclaration → ∀ child ∈ node.children, child.kind.isBody → node.span.start < child.span.start

/-- If the node is a namespace for the rest of the file, it holds only its name. -/
def Bare (node : Node) : Prop := node.kind = .namespaceLine → ∀ child ∈ node.children, child.kind = .name

/-- The members of a declaration hold no namespace for the rest of the file: such a namespace stands at the top level or
in conditional regions there. -/
def Outermost (node : Node) : Prop :=
  node.kind.isDeclaration → ∀ child ∈ node.children, child.kind.isBody →
    child.Everywhere fun inner => inner.kind ≠ .namespaceLine

end Node

namespace Members
variable {source : Text} {node : Node} {nodes : List Node}

theorem siblings_eq (source : Text) (nodes : List Node) :
    siblings source nodes = nodes.flatMap (declarations source) := by
  induction nodes with
  | nil => rfl
  | cons node rest ih => rw [siblings, ih, List.flatMap_cons]

theorem bodyMembers?_eq (source : Text) (p : NodeKind → Bool) (nodes : List Node) :
    bodyMembers? source p nodes =
      (nodes.find? fun node => p node.kind).map fun body => members source body.children := by
  induction nodes with
  | nil => rfl
  | cons node rest ih =>
    obtain ⟨kind, span, children⟩ := node
    rw [bodyMembers?]
    by_cases hp : p kind = true
    · rw [if_pos hp, List.find?_cons_of_pos (by exact hp)]
      rfl
    · rw [if_neg hp, List.find?_cons_of_neg (by exact hp), ih]

theorem members_cons (h : node.kind ≠ .namespaceLine) (rest : List Node) :
    members source (node :: rest) = declarations source node ++ members source rest := by
  obtain ⟨kind, span, children⟩ := node
  rw [members]
  exact fun span' children' heq => h (congrArg Node.kind heq)

theorem members_eq_nil (h : ∀ node ∈ nodes, node.kind = .name) : members source nodes = [] := by
  induction nodes with
  | nil => rfl
  | cons node rest ih =>
    obtain ⟨hnode, hrest⟩ := List.forall_mem_cons.1 h
    rw [members_cons (by rw [hnode]; decide), ih hrest, List.append_nil]
    obtain ⟨kind, span, children⟩ := node
    cases hnode
    rfl

/-- What a node adds to the declarations. -/
inductive Yields (source : Text) (node : Node) : List Declaration → Prop
  | nothing : Yields source node []
  | leaves {ds : List Declaration} (hk : node.kind.isDeclaration)
      (h : ∀ d ∈ ds, d.span = node.span ∧ d.children = []) : Yields source node ds
  | branch {d : Declaration} {body : Node} (hk : node.kind.isDeclaration) (hb : body ∈ node.children)
      (hbk : body.kind.isBody) (hs : d.span = node.span) (hc : d.children = members source body.children) :
      Yields source node [d]
  | through : Yields source node (members source node.children)

theorem yields_body {p : NodeKind → Bool} {d : Declaration} (hk : node.kind.isDeclaration)
    (hp : ∀ kind, p kind → kind.isBody) (hs : d.span = node.span)
    (hc : d.children = (bodyMembers? source p node.children).getD []) : Yields source node [d] := by
  rw [bodyMembers?_eq] at hc
  cases hb : node.children.find? fun child => p child.kind with
  | none =>
    refine .leaves hk fun e he => ?_
    rw [List.mem_singleton.1 he, hc, hb]
    exact ⟨hs, rfl⟩
  | some body =>
    have hbody : p body.kind := by simpa using List.find?_some hb
    exact .branch hk (List.mem_of_find?_eq_some hb) (hp _ hbody) hs (by rw [hc, hb]; rfl)

theorem yields_leaf {d : Declaration} (hk : node.kind.isDeclaration) (hs : d.span = node.span)
    (hc : d.children = []) : Yields source node [d] :=
  .leaves hk fun e he => by rw [List.mem_singleton.1 he]; exact ⟨hs, hc⟩

theorem yields_declarators (kind : DeclarationKind) (hk : node.kind.isDeclaration) :
    Yields source node (declarators source kind node) := by
  refine .leaves hk fun d hd => ?_
  unfold declarators at hd
  split at hd
  · cases hd
  · obtain ⟨name, -, rfl⟩ := List.mem_map.1 hd
    exact ⟨rfl, rfl⟩

theorem yields_toList {name : Option Text} {f : Text → Declaration} (h : ∀ name, Yields source node [f name]) :
    Yields source node (name.map f).toList := by
  cases name with
  | none => exact .nothing
  | some name => exact h name

/-- A namespace with a body has the members of that, and one for the rest of the file has none of its own. -/
theorem yields_namespace {d : Declaration} (h : node.Proper)
    (hkind : node.kind = .namespaceBlock ∨ node.kind = .namespaceLine) (hs : d.span = node.span)
    (hc : d.children = (bodyMembers? source (· = .memberList) node.children).getD (members source node.children)) :
    Yields source node [d] := by
  have hk : node.kind.isDeclaration := by rcases hkind with hkind | hkind <;> rw [hkind] <;> rfl
  have hp : ∀ kind : NodeKind, decide (kind = .memberList) → kind.isBody := by
    intro kind hkind
    rw [of_decide_eq_true hkind]
    rfl
  rcases hkind with hkind | hkind
  · obtain ⟨body, hb, hbk⟩ := h.block hkind
    have hsome : (bodyMembers? source (· = .memberList) node.children).isSome := by
      rw [bodyMembers?_eq, Option.isSome_map, List.find?_isSome]
      exact ⟨body, hb, by simpa using hbk⟩
    obtain ⟨inner, hinner⟩ := Option.isSome_iff_exists.1 hsome
    exact yields_body hk hp hs (by rw [hc, hinner]; rfl)
  · exact yields_body hk hp hs (by rw [hc, members_eq_nil (h.line hkind)])

theorem yields_declarations (h : node.Proper) : Yields source node (declarations source node) := by
  obtain ⟨kind, span, children⟩ := node
  have haccessor : ∀ kind : NodeKind, decide (kind = .accessorList) → kind.isBody := by
    intro kind hkind
    rw [of_decide_eq_true hkind]
    rfl
  have hmember : ∀ kind : NodeKind, (decide (kind = .memberList) || decide (kind = .enumMemberList)) → kind.isBody := by
    intro kind hkind
    rcases Bool.or_eq_true_iff.1 hkind with hkind | hkind <;> rw [of_decide_eq_true hkind] <;> rfl
  unfold declarations
  cases kind <;> dsimp only
  case namespaceBlock => exact yields_namespace h (.inl rfl) rfl rfl
  case namespaceLine => exact yields_namespace h (.inr rfl) rfl rfl
  case enumMember | accessor | method => exact yields_toList fun name => yields_leaf rfl rfl rfl
  case field | eventField => exact yields_declarators _ rfl
  case property | event => exact yields_toList fun name => yields_body rfl haccessor rfl rfl
  case indexer => exact yields_body rfl haccessor rfl rfl
  case constructor | destructor => exact yields_leaf rfl rfl rfl
  case memberList | enumMemberList | accessorList | region => exact .through
  case classDecl | structDecl | interfaceDecl | recordDecl | enumDecl =>
    cases name? source (.mk _ span children) with
    | none => exact .nothing
    | some name => exact yields_body rfl hmember rfl rfl
  all_goals exact .nothing

/-- The namespace that a node for the rest of the file declares. -/
def lineNamespace (source : Text) (line : Node) (members : List Declaration) : Declaration :=
  ⟨.namespaceDecl, namespaceName source line, [], [], ⟨line.span.start, source.byteLength⟩, members⟩

theorem members_line (hk : node.kind = .namespaceLine) (h : node.Bare) (rest : List Node) :
    members source (node :: rest) = [lineNamespace source node (rest.flatMap (declarations source))] := by
  have hnames := h hk
  obtain ⟨kind, span, children⟩ := node
  cases hk
  have hmembers : members source children = [] := members_eq_nil hnames
  have hbody : bodyMembers? source (· = .memberList) children = none := by
    rw [bodyMembers?_eq, Option.map_eq_none_iff, List.find?_eq_none]
    intro child hm
    rw [hnames child hm]
    decide
  rw [members, hbody, hmembers, siblings_eq]
  rfl

/-- The nodes of a container are read one after the other, up to a namespace for the rest of the file, which takes all
that follows. -/
theorem members_cases (source : Text) (h : ∀ node ∈ nodes, node.Bare) :
    members source nodes = nodes.flatMap (declarations source) ∨
      ∃ before line rest, nodes = before ++ line :: rest ∧ line.kind = .namespaceLine ∧
        members source nodes = before.flatMap (declarations source) ++
          [lineNamespace source line (rest.flatMap (declarations source))] := by
  induction nodes with
  | nil => exact .inl rfl
  | cons node rest ih =>
    obtain ⟨hnode, hrest⟩ := List.forall_mem_cons.1 h
    by_cases hk : node.kind = .namespaceLine
    · exact .inr ⟨[], node, rest, rfl, hk, members_line hk hnode rest⟩
    · rw [members_cons hk, List.flatMap_cons]
      rcases ih hrest with heq | ⟨before, line, rest', rfl, hline, heq⟩
      · exact .inl (by rw [heq])
      · refine .inr ⟨node :: before, line, rest', rfl, hline, ?_⟩
        rw [heq, List.flatMap_cons, List.append_assoc]

end Members

end Source

end Excerpt
