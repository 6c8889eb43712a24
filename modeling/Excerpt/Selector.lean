import Excerpt.Declaration
import Excerpt.Text.Blank

/-! # Selectors

A selector is a dotted path of keys such as `Outer.Inner.Run(int)`. `Selector.chunks` cuts it into keys,
`Declaration.keys` gives the keys that a declaration adds to the path of its container, and
`DeclarationTree.qualifiedPaths` lists every declaration with its full selector. -/

namespace Excerpt

namespace Selector

/-- The chunk read so far, if there is any. -/
def flush (chunk : Text) : List Text := if chunk.isEmpty then [] else [chunk]

/-- Cuts the rest of a selector, `depth` brackets deep, with `chunk` read so far. -/
def chunksFrom (depth : Nat) (chunk : Text) : Text → List Text
  | [] => flush chunk
  | c :: rest =>
    if c = '.' ∧ depth = 0 then flush chunk ++ chunksFrom 0 [] rest
    else if (c = '(' ∨ c = '[') ∧ depth = 0 then flush chunk ++ chunksFrom 1 [c] rest
    else if c ∈ ['(', '[', '{', '<'] then chunksFrom (depth + 1) (chunk ++ [c]) rest
    else if c ∈ [')', ']', '}', '>'] then chunksFrom (depth - 1) (chunk ++ [c]) rest
    else if Text.isBlank c then chunksFrom depth chunk rest
    else chunksFrom depth (chunk ++ [c]) rest

/-- The keys of a selector. Dots outside brackets separate keys, a `(` or `[` outside brackets starts one, and
blank characters do not count. -/
def chunks (pattern : Text) : List Text := chunksFrom 0 [] pattern

/-- Whether the key attaches to a path without a dot. -/
def isBracketed (key : Text) : Bool :=
  match key with
  | '(' :: _ => true
  | '[' :: _ => true
  | _ => false

/-- A path followed by one more key. -/
def append (path key : Text) : Text :=
  if path.isEmpty || isBracketed key then path ++ key else path ++ '.' :: key

/-- A path followed by more keys. -/
def appendAll (path : Text) (keys : List Text) : Text := keys.foldl append path

end Selector

namespace Declaration

/-- The items without blank characters, separated by commas. -/
def joinTypes (items : List Text) : Text := Text.joinWith [','] (items.map Text.squeeze)

/-- A name with its type parameters in braces, if it has any. -/
def genericName (name : Text) (typeParameters : List Text) : Text :=
  if typeParameters.isEmpty then name else name ++ '{' :: joinTypes typeParameters ++ ['}']

/-- The key of every constructor. -/
def constructorKey : Text := "<Constructor>".toList

/-- The key of every destructor. -/
def destructorKey : Text := "<Destructor>".toList

/-- The keys that lead from the container of a declaration to it, outermost first. -/
def keys (d : Declaration) : List Text :=
  match d.kind with
  | .namespaceDecl => ((d.name.split '.').map Text.trim).filter fun part => !part.isEmpty
  | .classDecl | .structDecl | .interfaceDecl | .recordDecl | .enumDecl => [genericName d.name d.typeParameters]
  | .enumMember | .field | .property | .event | .accessor => [d.name]
  | .indexer => ['[' :: joinTypes d.parameterTypes ++ [']']]
  | .method => [genericName d.name d.typeParameters, '(' :: joinTypes d.parameterTypes ++ [')']]
  | .constructor => [constructorKey]
  | .destructor => [destructorKey]

end Declaration

/-- A declaration with the selector that spells out its whole path. -/
structure QualifiedPath where
  path : Text
  kind : DeclarationKind
  span : Span
deriving DecidableEq, Repr, Inhabited

namespace Declaration

/-- The entry of a declaration at `path` inside `container`: none if the declaration adds nothing to the path.
-/
def pathEntry (d : Declaration) (container path : Text) : List QualifiedPath :=
  if container.byteLength < path.byteLength then [⟨path, d.kind, d.span⟩] else []

mutual
/-- The qualified paths of a declaration and of those inside it. -/
def qualifiedPaths (container : Text) : Declaration → List QualifiedPath
  | ⟨kind, name, typeParameters, parameterTypes, span, children⟩ =>
    let d : Declaration := ⟨kind, name, typeParameters, parameterTypes, span, children⟩
    let path := Selector.appendAll container d.keys
    d.pathEntry container path ++ qualifiedPathsAll path children

/-- The qualified paths of a list of siblings. -/
def qualifiedPathsAll (container : Text) : List Declaration → List QualifiedPath
  | [] => []
  | d :: ds => qualifiedPaths container d ++ qualifiedPathsAll container ds
end

end Declaration

/-- Every declaration of the tree with its full selector, a declaration before its children. -/
def DeclarationTree.qualifiedPaths (tree : DeclarationTree) : List QualifiedPath :=
  Declaration.qualifiedPathsAll [] tree.declarations

end Excerpt
