import Excerpt.Span
import Excerpt.Text.Basic

/-! # Declarations

A declaration is a named construct of a source file with the declarations inside it. `Declaration.preorder`
lists a declaration before its children and siblings from left to right; `DeclarationTree.walk` visits the
declarations of a file in that order with a stack of those still to come. -/

namespace Excerpt

/-- What a declaration declares. -/
inductive DeclarationKind where
  | namespaceDecl
  | classDecl
  | structDecl
  | interfaceDecl
  | recordDecl
  | enumDecl
  | enumMember
  | field
  | property
  | accessor
  | indexer
  | event
  | method
  | constructor
  | destructor
deriving DecidableEq, Repr, Inhabited

namespace DeclarationKind

/-- The kinds with the words that name them. -/
def words : List (DeclarationKind × Text) :=
  [(.namespaceDecl, "namespace".toList), (.classDecl, "class".toList), (.structDecl, "struct".toList),
    (.interfaceDecl, "interface".toList), (.recordDecl, "record".toList), (.enumDecl, "enum".toList),
    (.enumMember, "enum member".toList), (.field, "field".toList), (.property, "property".toList),
    (.accessor, "accessor".toList), (.indexer, "indexer".toList), (.event, "event".toList),
    (.method, "method".toList), (.constructor, "constructor".toList), (.destructor, "destructor".toList)]

/-- The words that name the kind. -/
def word (kind : DeclarationKind) : Text := (words.lookup kind).getD []

/-- The kind that the words name. -/
def ofWord? (text : Text) : Option DeclarationKind := (words.find? (·.2 == text)).map (·.1)

end DeclarationKind

/-- A construct of a source file that a selector can address. -/
structure Declaration where
  kind : DeclarationKind
  /-- Empty for indexers, constructors and destructors. -/
  name : Text
  typeParameters : List Text
  /-- Only methods and indexers have any. -/
  parameterTypes : List Text
  span : Span
  children : List Declaration
deriving Repr, Inhabited

/-- The declarations of one source file, with the span of the whole file. -/
structure DeclarationTree where
  span : Span
  declarations : List Declaration
deriving Repr, Inhabited

namespace Declaration

mutual
/-- The declaration, then those inside it. -/
def preorder : Declaration → List Declaration
  | ⟨kind, name, typeParameters, parameterTypes, span, children⟩ =>
    ⟨kind, name, typeParameters, parameterTypes, span, children⟩ :: preorderAll children

/-- The declarations of a list of siblings, each before its children. -/
def preorderAll : List Declaration → List Declaration
  | [] => []
  | d :: ds => preorder d ++ preorderAll ds
end

mutual
/-- Number of declarations in the subtree. -/
def size : Declaration → Nat
  | ⟨_, _, _, _, _, children⟩ => 1 + sizeAll children

/-- Number of declarations in a list of subtrees. -/
def sizeAll : List Declaration → Nat
  | [] => 0
  | d :: ds => size d + sizeAll ds
end

theorem size_eq (d : Declaration) : d.size = 1 + sizeAll d.children := by
  cases d; rfl

@[simp] theorem sizeAll_nil : sizeAll [] = 0 := rfl

@[simp] theorem sizeAll_cons (d : Declaration) (ds : List Declaration) :
    sizeAll (d :: ds) = d.size + sizeAll ds := rfl

@[simp] theorem sizeAll_append (ds es : List Declaration) :
    sizeAll (ds ++ es) = sizeAll ds + sizeAll es := by
  induction ds with
  | nil => simp
  | cons d ds ih => simp only [List.cons_append, sizeAll_cons, ih]; omega

@[simp] theorem sizeAll_reverse (ds : List Declaration) : sizeAll ds.reverse = sizeAll ds := by
  induction ds with
  | nil => rfl
  | cons d ds ih => simp only [List.reverse_cons, sizeAll_append, sizeAll_cons, sizeAll_nil, ih]; omega

end Declaration

namespace DeclarationTree

/-- The tree of a source of the given length in bytes. -/
def ofLength (length : Nat) (declarations : List Declaration) : DeclarationTree :=
  ⟨⟨0, length⟩, declarations⟩

/-- Takes the next declaration from the end of the stack. Its children go there instead, the first one last. -/
def next? (stack : List Declaration) : Option (Declaration × List Declaration) :=
  stack.getLast?.map fun d => (d, stack.dropLast ++ d.children.reverse)

theorem next?_eq_some_iff {stack rest : List Declaration} {d : Declaration} :
    next? stack = some (d, rest) ↔ ∃ below, stack = below ++ [d] ∧ rest = below ++ d.children.reverse := by
  rw [next?, Option.map_eq_some_iff]
  constructor
  · rintro ⟨e, he, heq⟩
    cases heq
    obtain ⟨below, rfl⟩ := List.getLast?_eq_some_iff.1 he
    exact ⟨below, rfl, by rw [List.dropLast_concat]⟩
  · rintro ⟨below, rfl, rfl⟩
    exact ⟨d, List.getLast?_concat, by rw [List.dropLast_concat]⟩

theorem sizeAll_lt_of_next?_eq_some {stack rest : List Declaration} {d : Declaration}
    (h : next? stack = some (d, rest)) : Declaration.sizeAll rest < Declaration.sizeAll stack := by
  obtain ⟨below, rfl, rfl⟩ := next?_eq_some_iff.1 h
  simp only [Declaration.sizeAll_append, Declaration.sizeAll_reverse, Declaration.sizeAll_cons, Declaration.sizeAll_nil,
    Declaration.size_eq]
  omega

/-- What the stack yields until it is empty. -/
def visit (stack : List Declaration) : List Declaration :=
  match h : next? stack with
  | none => []
  | some (d, rest) =>
    have := sizeAll_lt_of_next?_eq_some h
    d :: visit rest
termination_by Declaration.sizeAll stack

/-- Every declaration of the tree, with the stack of those still to come as the only state. -/
def walk (tree : DeclarationTree) : List Declaration := visit tree.declarations.reverse

end DeclarationTree

end Excerpt
