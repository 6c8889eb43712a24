import Excerpt.Proofs.NestedSpans

/-!
# The plain listing of a syntax tree

The member walk moves what follows a namespace for the rest of the file under that namespace. `rowsAll` lists the
declarations of a syntax tree without doing so: it goes through the nodes of each container in order, and a namespace
for the rest of the file is a node like any other. Both give the same declarations in the same order
(`map_walk_ofNode`), so the walk neither loses a member nor lists one twice.
-/

namespace Excerpt

namespace DeclarationTree

theorem visit_eq (stack : List Declaration) : visit stack = Declaration.preorderAll stack.reverse := by
  fun_induction visit stack with
  | case1 stack hnone =>
    have hnil : stack = [] := List.getLast?_eq_none_iff.1 (Option.map_eq_none_iff.1 hnone)
    rw [hnil]
    rfl
  | case2 stack d rest hnext _ ih =>
    obtain ⟨below, rfl, rfl⟩ := next?_eq_some_iff.1 hnext
    rw [ih, List.reverse_append, List.reverse_reverse, Declaration.preorderAll_append, List.reverse_append,
      List.reverse_singleton, List.singleton_append, Declaration.preorderAll, Declaration.preorder_eq]
    rfl

theorem walk_eq (tree : DeclarationTree) : tree.walk = Declaration.preorderAll tree.declarations := by
  rw [walk, visit_eq, List.reverse_reverse]

end DeclarationTree

namespace Source

/-- What a listing shows of a declaration. -/
structure Row where
  kind : DeclarationKind
  name : Text
  start : Nat
deriving DecidableEq, Repr

def Row.ofDeclaration (d : Declaration) : Row := ⟨d.kind, d.name, d.span.start⟩

namespace NodeKind

/-- Whether nodes of the kind hold members and declare nothing. -/
def isContainer : NodeKind → Bool
  | .memberList | .enumMemberList | .accessorList | .region => true
  | _ => false

def isNamespace : NodeKind → Bool
  | .namespaceBlock | .namespaceLine => true
  | _ => false

/-- What nodes of the kind declare if they have a name. -/
def named? : NodeKind → Option DeclarationKind
  | .enumMember => some .enumMember
  | .property => some .property
  | .event => some .event
  | .accessor => some .accessor
  | .method => some .method
  | kind => Members.typeKind? kind

/-- Whether the members of a declaration of the first kind stand in a node of the second. -/
def hasBody : NodeKind → NodeKind → Bool
  | .namespaceBlock | .namespaceLine => (· = .memberList)
  | .classDecl | .structDecl | .interfaceDecl | .recordDecl | .enumDecl =>
    fun k => k = .memberList || k = .enumMemberList
  | .property | .event | .indexer => (· = .accessorList)
  | _ => fun _ => false

end NodeKind

namespace Members
variable {source : Text} {node : Node} {nodes : List Node}

/-- The names of the declarators of a node, of those that have one. -/
def declaratorNames (source : Text) (node : Node) : List Text :=
  ((node.child? .declarators).toList.flatMap Node.children).filterMap fun declarator =>
    if declarator.kind = .declarator then name? source declarator else none

/-- What the node itself declares: nothing, one declaration, or one for each of its declarators. -/
def ownRows (source : Text) (node : Node) : List Row :=
  match node.kind with
  | .namespaceBlock | .namespaceLine => [⟨.namespaceDecl, namespaceName source node, node.span.start⟩]
  | .indexer => [⟨.indexer, [], node.span.start⟩]
  | .constructor => [⟨.constructor, [], node.span.start⟩]
  | .destructor => [⟨.destructor, [], node.span.start⟩]
  | .field => (declaratorNames source node).map (⟨.field, ·, node.span.start⟩)
  | .eventField => (declaratorNames source node).map (⟨.event, ·, node.span.start⟩)
  | kind =>
    match kind.named?, name? source node with
    | some declared, some name => [⟨declared, name, node.span.start⟩]
    | _, _ => []

mutual
/-- What the node declares and then what the node with its members holds. A node that lacks the name it needs is
passed over, and a namespace without a body is its own. -/
def rows (source : Text) : Node → List Row
  | .mk kind span children =>
    let own := ownRows source (.mk kind span children)
    if kind.isContainer then rowsAll source children
    else if own.isEmpty then []
    else own ++ (bodyRows? source kind.hasBody children).getD (if kind.isNamespace then rowsAll source children else [])
termination_by structural node => node

def rowsAll (source : Text) : List Node → List Row
  | [] => []
  | node :: rest => rows source node ++ rowsAll source rest
termination_by structural nodes => nodes

/-- The rows inside the first of the nodes whose kind satisfies `p`. -/
def bodyRows? (source : Text) (p : NodeKind → Bool) : List Node → Option (List Row)
  | [] => none
  | .mk kind _ children :: rest => if p kind then some (rowsAll source children) else bodyRows? source p rest
termination_by structural nodes => nodes
end

theorem rowsAll_eq (source : Text) (nodes : List Node) : rowsAll source nodes = nodes.flatMap (rows source) := by
  induction nodes with
  | nil => rfl
  | cons node rest ih => rw [rowsAll, ih, List.flatMap_cons]

theorem bodyRows?_eq (source : Text) (p : NodeKind → Bool) (nodes : List Node) :
    bodyRows? source p nodes = (nodes.find? fun node => p node.kind).map fun body => rowsAll source body.children := by
  induction nodes with
  | nil => rfl
  | cons node rest ih =>
    obtain ⟨kind, span, children⟩ := node
    rw [bodyRows?]
    by_cases hp : p kind = true
    · rw [if_pos hp, List.find?_cons_of_pos (by exact hp)]
      rfl
    · rw [if_neg hp, List.find?_cons_of_neg (by exact hp), ih]

theorem rowsAll_eq_nil (h : ∀ node ∈ nodes, node.kind = .name) : rowsAll source nodes = [] := by
  rw [rowsAll_eq, List.flatMap_eq_nil_iff]
  intro node hm
  have hkind := h node hm
  obtain ⟨kind, span, children⟩ := node
  cases hkind
  rfl

/-- The declarations and those inside them, as a listing shows them. -/
def listed (ds : List Declaration) : List Row := (Declaration.preorderAll ds).map Row.ofDeclaration

theorem listed_append (ds es : List Declaration) : listed (ds ++ es) = listed ds ++ listed es := by
  rw [listed, Declaration.preorderAll_append, List.map_append]
  rfl

theorem listed_singleton (d : Declaration) : listed [d] = .ofDeclaration d :: listed d.children := by
  rw [listed, Declaration.preorderAll_singleton, List.map_cons]
  rfl

theorem listed_flatMap (h : ∀ node ∈ nodes, listed (declarations source node) = rows source node) :
    listed (nodes.flatMap (declarations source)) = rowsAll source nodes := by
  induction nodes with
  | nil => rfl
  | cons node rest ih =>
    obtain ⟨hnode, hrest⟩ := List.forall_mem_cons.1 h
    rw [List.flatMap_cons, listed_append, hnode, ih hrest, rowsAll]

/-- Field and event declarations list one row for each named declarator. -/
theorem listed_declarators (kind : DeclarationKind) (node : Node) :
    listed (declarators source kind node) = (declaratorNames source node).map (⟨kind, ·, node.span.start⟩) := by
  have hleaves : ∀ d ∈ declarators source kind node, d.children = [] := by
    intro d hd
    unfold declarators at hd
    split at hd
    · cases hd
    · obtain ⟨name, -, rfl⟩ := List.mem_map.1 hd
      rfl
  rw [listed, Declaration.preorderAll_of_leaves hleaves]
  unfold declarators declaratorNames
  cases node.child? .declarators with
  | none => rfl
  | some list =>
    have hfilter : list.children.filterMap (fun d => if d.kind = .declarator then name? source d else none) =
        (list.children.filter (·.kind = .declarator)).filterMap (name? source) := by
      rw [List.filterMap_filter]
      simp
    simp only [Option.toList_some, List.flatMap_cons, List.flatMap_nil, List.append_nil, hfilter, List.map_map]
    rfl

/-- A namespace for the rest of the file takes the rows after it, and lists them after its own. -/
theorem listed_members (hbare : ∀ node ∈ nodes, node.Bare)
    (h : ∀ node ∈ nodes, listed (declarations source node) = rows source node) :
    listed (members source nodes) = rowsAll source nodes := by
  rcases members_cases source hbare with heq | ⟨before, line, rest, rfl, hkind, heq⟩ <;> rw [heq]
  · exact listed_flatMap h
  · have hbefore : ∀ node ∈ before, listed (declarations source node) = rows source node :=
      fun node hm => h node (List.mem_append_left _ hm)
    have hrest : ∀ node ∈ rest, listed (declarations source node) = rows source node :=
      fun node hm => h node (List.mem_append_right _ (List.mem_cons_of_mem _ hm))
    have hnames := hbare line (by simp) hkind
    have hline : rows source line = [⟨.namespaceDecl, namespaceName source line, line.span.start⟩] := by
      obtain ⟨kind, span, children⟩ := line
      cases hkind
      have hnames : ∀ child ∈ children, child.kind = .name := hnames
      have hnone : bodyRows? source (NodeKind.hasBody .namespaceLine) children = none := by
        rw [bodyRows?_eq, Option.map_eq_none_iff, List.find?_eq_none]
        intro child hm
        rw [hnames child hm]
        decide
      simp [rows, ownRows, Node.kind, NodeKind.isContainer, NodeKind.isNamespace, hnone, rowsAll_eq_nil hnames]
    rw [listed_append, listed_flatMap hbefore, listed_singleton, lineNamespace, listed_flatMap hrest, rowsAll_eq,
      rowsAll_eq, rowsAll_eq, List.flatMap_append, List.flatMap_cons, hline]
    rfl

/-- The members of the body of a declaration, as the walk and the listing find them. -/
theorem listed_bodyMembers? (p : NodeKind → Bool)
    (h : ∀ child ∈ nodes, listed (members source child.children) = rowsAll source child.children) :
    (bodyMembers? source p nodes).map listed = bodyRows? source p nodes := by
  rw [bodyMembers?_eq, bodyRows?_eq, Option.map_map]
  cases hb : nodes.find? fun child => p child.kind with
  | none => rfl
  | some body => exact congrArg some (h body (List.mem_of_find?_eq_some hb))

theorem bodyRows?_never (nodes : List Node) : bodyRows? source (fun _ => false) nodes = none := by
  rw [bodyRows?_eq, Option.map_eq_none_iff, List.find?_eq_none]
  simp

/-- A node that needs a name and has one lists itself and then the rows of its body. -/
theorem rows_of_named {declared : DeclarationKind} (hk : node.kind.named? = some declared) :
    rows source node = ((name? source node).map fun name => (⟨declared, name, node.span.start⟩ : Row) ::
      (bodyRows? source node.kind.hasBody node.children).getD []).getD [] := by
  obtain ⟨kind, span, children⟩ := node
  have hk : kind.named? = some declared := hk
  have hown : ownRows source (.mk kind span children) =
      ((name? source (.mk kind span children)).map fun name => (⟨declared, name, span.start⟩ : Row)).toList := by
    cases kind <;> cases hk <;> dsimp only [ownRows, Node.kind] <;> cases name? source (.mk _ span children) <;> rfl
  have hcontainer : kind.isContainer = false := by cases kind <;> cases hk <;> rfl
  have hnamespace : kind.isNamespace = false := by cases kind <;> cases hk <;> rfl
  rw [rows, hown, hcontainer, hnamespace]
  cases name? source (.mk kind span children) <;> rfl

theorem listed_toList {name : Option Text} {f : Text → Declaration} {g : Text → List Row}
    (h : ∀ name, listed [f name] = g name) : listed (name.map f).toList = (name.map g).getD [] := by
  cases name with
  | none => rfl
  | some name => exact h name

theorem listed_declarations
    (hbody : ∀ child ∈ node.children, listed (members source child.children) = rowsAll source child.children)
    (hmembers : listed (members source node.children) = rowsAll source node.children) :
    listed (declarations source node) = rows source node := by
  obtain ⟨kind, span, children⟩ := node
  have hall : listed (members source children) = rowsAll source children := hmembers
  have hgetD : ∀ (p : NodeKind → Bool) (ds : List Declaration),
      listed ((bodyMembers? source p children).getD ds) = (bodyRows? source p children).getD (listed ds) := by
    intro p ds
    have hbodies : (bodyMembers? source p children).map listed = bodyRows? source p children :=
      listed_bodyMembers? p hbody
    rw [← hbodies]
    cases bodyMembers? source p children <;> rfl
  have hnone : ∀ ds : List Row, (bodyRows? source (fun _ => false) children).getD ds = ds := by
    intro ds
    rw [bodyRows?_never, Option.getD_none]
  cases kind
  case namespaceBlock | namespaceLine =>
    show listed [_] = _
    rw [listed_singleton, hgetD, hall]
    rfl
  case field | eventField =>
    show listed (declarators source _ _) = _
    rw [listed_declarators]
    simp [rows, ownRows, Node.kind, NodeKind.isContainer, NodeKind.isNamespace, NodeKind.hasBody, hnone]
  case enumMember | accessor | method =>
    rw [rows_of_named rfl]
    refine listed_toList fun name => ?_
    rw [listed_singleton]
    exact congrArg _ (hnone []).symm
  case property | event =>
    rw [rows_of_named rfl]
    refine listed_toList fun name => ?_
    rw [listed_singleton, hgetD]
    rfl
  case indexer =>
    show listed [_] = _
    rw [listed_singleton, hgetD]
    rfl
  case constructor | destructor =>
    show listed [_] = _
    rw [listed_singleton]
    exact congrArg _ (hnone []).symm
  case memberList | enumMemberList | accessorList | region => exact hall
  case classDecl | structDecl | interfaceDecl | recordDecl | enumDecl =>
    rw [rows_of_named rfl]
    unfold declarations
    dsimp only
    cases name? source (.mk _ span children) with
    | none => rfl
    | some name =>
      show listed [_] = _
      rw [listed_singleton, hgetD]
      rfl
  all_goals rfl

/-- What a node declares is what it lists, and so it is with the nodes inside it. -/
theorem listed_node (h : node.Everywhere Node.Bare) :
    listed (declarations source node) = rows source node ∧
      listed (members source node.children) = rowsAll source node.children := by
  induction h with
  | @mk node hbare hc ih =>
    have hmembers : listed (members source node.children) = rowsAll source node.children :=
      listed_members (fun child hm => (hc child hm).here) fun child hm => (ih child hm).1
    exact ⟨listed_declarations (fun child hm => (ih child hm).2) hmembers, hmembers⟩

/-- The walk over the declaration tree meets the declarations that the plain listing of the syntax tree gives, each
once and in the same order, wherever namespaces for the rest of the file stand. -/
theorem map_walk_ofNode (source : Text) (file : Node) (h : file.Everywhere Node.Bare) :
    (ofNode source file).walk.map Row.ofDeclaration = rowsAll source file.children := by
  rw [DeclarationTree.walk_eq]
  exact (listed_node h).2

/-- A source with a namespace for the rest of the file in a conditional region, after which come a class, a second such
namespace and the other branch of the region. -/
def branches : Text :=
  "#if X\nnamespace N;\nclass C \x7b int a, b; int P \x7b get; \x7d \x7d\nnamespace M;\n".toList ++
    "#else\nenum E \x7b A \x7d\n#endif".toList

/-- Its syntax tree. -/
def branchesFile : Node :=
  .mk .file ⟨0, 94⟩
    [.mk .region ⟨0, 94⟩
      [.mk .namespaceLine ⟨6, 18⟩ [.leaf .name ⟨16, 17⟩],
        .mk .classDecl ⟨19, 55⟩
          [.leaf .name ⟨25, 26⟩,
            .mk .memberList ⟨27, 55⟩
              [.mk .field ⟨29, 38⟩
                [.mk .declarators ⟨29, 37⟩
                  [.mk .declarator ⟨33, 34⟩ [.leaf .name ⟨33, 34⟩],
                    .mk .declarator ⟨36, 37⟩ [.leaf .name ⟨36, 37⟩]]],
                .mk .property ⟨39, 53⟩
                  [.leaf .name ⟨43, 44⟩,
                    .mk .accessorList ⟨45, 53⟩ [.mk .accessor ⟨47, 51⟩ [.leaf .name ⟨47, 50⟩]]]]],
        .mk .namespaceLine ⟨56, 68⟩ [.leaf .name ⟨66, 67⟩],
        .mk .region ⟨69, 87⟩
          [.mk .enumDecl ⟨75, 87⟩
            [.leaf .name ⟨80, 81⟩,
              .mk .enumMemberList ⟨82, 87⟩ [.mk .enumMember ⟨84, 85⟩ [.leaf .name ⟨84, 85⟩]]]]]]

theorem map_walk_ofNode_branches :
    branchesFile.Everywhere Node.Bare ∧ (ofNode branches branchesFile).declarations.length = 1 ∧
      (ofNode branches branchesFile).walk.map Row.ofDeclaration =
        [⟨.namespaceDecl, ['N'], 6⟩, ⟨.classDecl, ['C'], 19⟩, ⟨.field, ['a'], 29⟩, ⟨.field, ['b'], 29⟩,
          ⟨.property, ['P'], 39⟩, ⟨.accessor, "get".toList, 47⟩, ⟨.namespaceDecl, ['M'], 56⟩, ⟨.enumDecl, ['E'], 75⟩,
          ⟨.enumMember, ['A'], 84⟩] := by
  have hbare : branchesFile.Everywhere Node.Bare := by
    simp [branchesFile, Node.leaf, Node.Everywhere.mk_iff, Node.Bare, Node.children, Node.kind]
  exact ⟨hbare, rfl, map_walk_ofNode branches branchesFile hbare⟩

end Members

end Source

end Excerpt
