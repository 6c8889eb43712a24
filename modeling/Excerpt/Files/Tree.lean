import Excerpt.Path
import Excerpt.Table

/-! # File trees

A file tree is a file or a directory with named entries, ascending by name. A location is the list of names
that leads from the root to a part of the tree. -/

namespace Excerpt

namespace Files

/-- What a file holds. -/
inductive Content where
  | text (t : Text)
  /-- Bytes that are not the UTF-8 form of any text. -/
  | binary (bytes : List UInt8)
deriving DecidableEq, Repr, Inhabited

/-- A file, or a directory with its entries. -/
inductive Tree where
  | file (content : Content)
  | directory (entries : List (Text × Tree))
deriving Repr, Inhabited

/-- Names that lead from the root to a part of a file tree. -/
abbrev Location := List Text

namespace Content

/-- The content with the given bytes. -/
def ofBytes (bytes : List UInt8) : Content :=
  match String.fromUTF8? ⟨bytes.toArray⟩ with
  | some s => .text s.toList
  | none => .binary bytes

/-- The text of the content. -/
def text? : Content → Option Text
  | .text t => some t
  | .binary _ => none

end Content

namespace Tree

/-- The directory without entries. -/
def empty : Tree := .directory []

/-- The entries of a directory; a file has none. -/
def entries : Tree → List (Text × Tree)
  | .file _ => []
  | .directory items => items

/-- The part of the tree at a location. -/
def get? (tree : Tree) : Location → Option Tree
  | [] => some tree
  | name :: rest =>
    match tree with
    | .file _ => none
    | .directory entries =>
      match entries.lookup name with
      | some entry => get? entry rest
      | none => none

/-- Puts a part at a location. Directories that are missing on the way are made, and a file that is in the way
gives place to one. -/
def put : Tree → Location → Tree → Tree
  | _, [], part => part
  | tree, name :: rest, part =>
    .directory (Table.alter name (fun old => put (old.getD empty) rest part) tree.entries)

/-- Removes what is at a location other than the root. -/
def remove : Location → Tree → Tree
  | [], tree => tree
  | [name], tree =>
    match tree with
    | .file content => .file content
    | .directory entries => .directory (entries.filter fun p => p.1 ≠ name)
  | name :: rest, tree =>
    match tree with
    | .file content => .file content
    | .directory entries =>
      if (entries.lookup name).isSome then
        .directory (Table.alter name (fun old => remove rest (old.getD empty)) entries)
      else .directory entries

mutual
/-- The files of the tree that paths can lead to, with their locations below `location`, directory by
directory. -/
def files (location : Location) : Tree → List (Location × Content)
  | .file content => [(location, content)]
  | .directory entries => filesAll location [] entries

/-- The files of several entries with their locations below `location`. An entry counts if its name can be
part of a path and is not taken by an entry before it. -/
def filesAll (location : Location) (taken : List Text) : List (Text × Tree) → List (Location × Content)
  | [] => []
  | (name, tree) :: rest =>
    (if Path.isName name && !taken.contains name then files (location ++ [name]) tree else []) ++
      filesAll location (name :: taken) rest
end

end Tree

end Files

end Excerpt
