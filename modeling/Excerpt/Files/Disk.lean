import Excerpt.Files.Tree
import Excerpt.Path

/-! # Disks

A disk is a file tree with a working directory. `Disk.locate` follows a path part by part: every part but the
last must lead to a directory, also one that is empty or a dot, so a path that goes on after a file or after a
name that is not there leads nowhere. -/

namespace Excerpt

namespace Files

/-- Why the disk refuses an operation. -/
inductive DiskError where
  | notFound
  | occupied
  | notDirectory
  | isDirectory
  | busy
  /-- A file that should hold text does not. -/
  | notText
deriving DecidableEq, Repr, Inhabited

namespace DiskError

/-- What a user is told. -/
def message : DiskError → Text
  | notFound => "No such file or directory (os error 2)".toList
  | occupied => "File exists (os error 17)".toList
  | notDirectory => "Not a directory (os error 20)".toList
  | isDirectory => "Is a directory (os error 21)".toList
  | busy => "Device or resource busy (os error 16)".toList
  | notText => "stream did not contain valid UTF-8".toList

end DiskError

/-- A file tree and the directory at which relative paths start. -/
structure Disk where
  root : Tree
  workingDirectory : Location
deriving Repr, Inhabited

namespace Disk

/-- Follows one part of a path. -/
def step (disk : Disk) (location : Location) (part : Text) : Except DiskError Location :=
  match disk.root.get? location with
  | none => .error .notFound
  | some (.file _) => .error .notDirectory
  | some (.directory entries) =>
    if Path.isIdle part then .ok location
    else if part = Path.dotDot then .ok location.dropLast
    else if (entries.lookup part).isSome then .ok (location ++ [part])
    else .error .notFound

/-- Where a path starts: at the root, or at the working directory, of which only names count. -/
def start (disk : Disk) (path : Text) : Location :=
  if Path.isAbsolute path then [] else disk.workingDirectory.filter Path.isName

/-- The location that a path leads to. -/
def locate (disk : Disk) (path : Text) : Except DiskError Location :=
  if path.isEmpty then .error .notFound else (path.split '/').foldlM disk.step (disk.start path)

/-- What a path leads to. -/
def entry? (disk : Disk) (path : Text) : Option Tree :=
  match disk.locate path with
  | .ok location => disk.root.get? location
  | .error _ => none

/-- Whether the path leads to a file. -/
def isFile (disk : Disk) (path : Text) : Bool :=
  match disk.entry? path with
  | some (.file _) => true
  | _ => false

/-- Whether the path leads to a directory. -/
def isDirectory (disk : Disk) (path : Text) : Bool :=
  match disk.entry? path with
  | some (.directory _) => true
  | _ => false

/-- The absolute path of a location. -/
def pathOf (location : Location) : Text := '/' :: Text.joinWith ['/'] location

/-- The absolute path of the working directory. -/
def workingPath (disk : Disk) : Text := pathOf disk.workingDirectory

/-- The text of the file that the path leads to. -/
def readText (disk : Disk) (path : Text) : Except DiskError Text :=
  match disk.locate path with
  | .error e => .error e
  | .ok location =>
    match disk.root.get? location with
    | none => .error .notFound
    | some (.directory _) => .error .isDirectory
    | some (.file content) =>
      match content.text? with
      | some text => .ok text
      | none => .error .notText

end Disk

end Files

end Excerpt
