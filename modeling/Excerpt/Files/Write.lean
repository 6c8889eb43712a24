import Excerpt.Files.Disk

/-! # Writing files

`Disk.writeWhole` puts a whole text at a path or nothing: the parent directories are made, the text goes to a
draft in the last of them, a file with a name of its own, and then the draft takes its place in one step. If it
cannot, it is removed. A failure may leave new directories behind, but no file changes. -/

namespace Excerpt

namespace Files

/-- Why a text was not written. -/
inductive WriteError where
  /-- The path has no parent directory. -/
  | noParent (path : Text)
  | disk (path : Text) (cause : DiskError)
deriving DecidableEq, Repr, Inhabited

namespace WriteError

/-- What a user is told. -/
def message : WriteError → Text
  | noParent path => "cannot write ".toList ++ path ++ ": path has no parent directory".toList
  | disk path cause => "failed to write ".toList ++ path ++ ": ".toList ++ cause.message

end WriteError

namespace Disk

/-- Where the last part of a path would be. -/
structure Slot where
  /-- The directory. -/
  directory : Location
  /-- The last part that is not empty. -/
  name : Text
  /-- Whether a slash follows that part. -/
  slash : Bool
deriving DecidableEq, Repr, Inhabited

namespace Slot

/-- Whether the last part is no name. -/
def isNameless (slot : Slot) : Bool := Path.isIdle slot.name || slot.name == Path.dotDot

/-- The location of the last part. -/
def location (slot : Slot) : Location := slot.directory ++ [slot.name]

end Slot

/-- The slot that a path names. The directory must be there. -/
def slot (disk : Disk) (path : Text) : Except DiskError Slot :=
  if path.isEmpty then .error .notFound
  else
    let parts := (path.split '/').reverse
    let ending := parts.dropWhile List.isEmpty
    let name := ending.head?.getD []
    match ending.tail.reverse.foldlM disk.step (disk.start path) with
    | .error e => .error e
    | .ok location =>
      match disk.root.get? location with
      | some (.directory _) => .ok ⟨location, name, ending.length < parts.length⟩
      | some (.file _) => .error .notDirectory
      | none => .error .notFound

/-- Makes one directory. -/
def makeDirectory (disk : Disk) (path : Text) : Except DiskError Disk :=
  match disk.slot path with
  | .error e => .error e
  | .ok slot =>
    if slot.isNameless || (disk.root.get? slot.location).isSome then .error .occupied
    else .ok { disk with root := disk.root.put slot.location .empty }

/-- Makes a directory, or finds that it is there. -/
def ensureDirectory (disk : Disk) (path : Text) : Except DiskError Disk :=
  match disk.makeDirectory path with
  | .ok disk => .ok disk
  | .error e => if disk.isDirectory path then .ok disk else .error e

/-- Makes a directory and those above it that are missing; the components of its path come from right to left.
The disk has the directories that were made, also after a failure. -/
def makeDirectories (disk : Disk) : List Text → Disk × Except DiskError Unit
  | [] => (disk, .ok ())
  | last :: above =>
    let path := Path.ofComponents (last :: above).reverse
    match disk.ensureDirectory path with
    | .ok disk => (disk, .ok ())
    | .error .notFound =>
      match makeDirectories disk above with
      | (disk, .error e) => (disk, .error e)
      | (disk, .ok ()) =>
        match disk.ensureDirectory path with
        | .ok disk => (disk, .ok ())
        | .error e => (disk, .error e)
    | .error e => (disk, .error e)

/-- A name that is none of the given ones: it is longer. -/
def spareName (taken : List Text) : Text :=
  ".tmp".toList ++ List.replicate ((taken.map List.length).foldr max 0) 'x'

/-- Makes a file with the given text in the directory that a path leads to. `spare` picks its name, given those
of the entries. -/
def makeDraft (disk : Disk) (spare : List Text → Text) (directory text : Text) :
    Except DiskError (Disk × Location) :=
  match disk.locate directory with
  | .error e => .error e
  | .ok location =>
    match disk.root.get? location with
    | some (.directory entries) =>
      let draft := location ++ [spare (entries.map Prod.fst)]
      .ok ({ disk with root := disk.root.put draft (.file (.text text)) }, draft)
    | some (.file _) => .error .notDirectory
    | none => .error .notFound

/-- Moves a file to the place that a path names, also if there is a file already. -/
def moveFile (disk : Disk) (source : Location) (path : Text) : Except DiskError Disk :=
  match disk.root.get? source with
  | some (.file content) =>
    match disk.slot path with
    | .error e => .error e
    | .ok slot =>
      if slot.isNameless then .error .busy
      else if slot.slash then .error .notDirectory
      else match disk.root.get? slot.location with
        | some (.directory _) => .error .isDirectory
        | _ => .ok { disk with root := (disk.root.remove source).put slot.location (.file content) }
  | _ => .error .notFound

/-- Writes a whole text to a path, or changes no file. `spare` names the draft. -/
def writeWith (disk : Disk) (spare : List Text → Text) (path text : Text) : Disk × Except WriteError Unit :=
  match Path.parent? path with
  | none => (disk, .error (.noParent path))
  | some parent =>
    match disk.makeDirectories (Path.components parent).reverse with
    | (disk, .error e) => (disk, .error (.disk path e))
    | (disk, .ok ()) =>
      match disk.makeDraft spare (Path.orDot parent) text with
      | .error e => (disk, .error (.disk path e))
      | .ok (disk, draft) =>
        match disk.moveFile draft path with
        | .ok disk => (disk, .ok ())
        | .error e => ({ disk with root := disk.root.remove draft }, .error (.disk path e))

/-- Writes a whole text to a path, or changes no file. -/
def writeWhole (disk : Disk) (path text : Text) : Disk × Except WriteError Unit :=
  disk.writeWith spareName path text

/-- Removes the file that a path leads to. -/
def removeFile (disk : Disk) (path : Text) : Option Disk :=
  if disk.isFile path then
    match disk.locate path with
    | .ok location => some { disk with root := disk.root.remove location }
    | .error _ => none
  else none

end Disk

end Files

end Excerpt
