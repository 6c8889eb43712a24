import Excerpt.Index.Node
import Excerpt.Selector

/-! # Building the index of a source file

Every declaration is reached from the root by its path of keys and by every trailing part of that path. A
declaration hands its container a node for itself; a copy of the node at each of its keys also goes under that
key of the root. -/

namespace Excerpt

/-- The index of a source file. -/
structure Index where
  root : Index.Node
deriving Repr, Inhabited

namespace Index

/-- Wraps `node` in the keys, which are given innermost first; at each key a copy goes under the root. The
name of a method, which is not its innermost key, addresses the method too. -/
def wrap (d : Declaration) (node root : Node) : List Text → Node × Node
  | [] => (node, root)
  | key :: outer =>
    let wrapped := Node.single key node
    let wrapped := if d.kind = .method ∧ outer ≠ [] then wrapped.addSpan d.span else wrapped
    wrap d wrapped (root.mergeAt key node) outer

mutual
/-- What a declaration contributes to its container, and the root with the copies merged in. -/
def visit (root : Node) : Declaration → Node × Node
  | ⟨kind, name, typeParameters, parameterTypes, span, children⟩ =>
    let d : Declaration := ⟨kind, name, typeParameters, parameterTypes, span, children⟩
    let (members, root) := visitAll Node.empty root children
    if d.keys.isEmpty then (members, root) else wrap d (members.addSpan span) root d.keys.reverse

/-- What several siblings contribute to their container, beside `members`, and the root. -/
def visitAll (members root : Node) : List Declaration → Node × Node
  | [] => (members, root)
  | d :: ds =>
    let (contribution, root) := visit root d
    visitAll (members.merge contribution) root ds
end

/-- Adds the declarations of the top level to the root one after the other. -/
def addTopLevel (root : Node) (declarations : List Declaration) : Node :=
  declarations.foldl (fun root d => let (contribution, root) := visit root d; root.merge contribution) root

/-- The index of a file. The root addresses the whole file. -/
def build (tree : DeclarationTree) : Index :=
  ⟨addTopLevel (Node.empty.addSpan tree.span) tree.declarations⟩

end Index

end Excerpt
