import Excerpt.ExtractError

/-! # Targets

`Target.resolve` finds the file that a directive names. An absolute target is its only candidate; a relative
one is looked for in the directory of the document and then in the roots, in order. The first candidate that
is a file wins, and the answer is the absolute path of its location, so a file has one name. -/

namespace Excerpt

namespace Target

/-- The paths at which a target is looked for. -/
def candidates (target : Text) (documentDirectory : Option Text) (roots : List Text) : List Text :=
  if Path.isAbsolute target then [target]
  else (documentDirectory.toList ++ roots).map fun base => Path.join base target

/-- The location of the file that a path leads to. -/
def fileLocation? (disk : Files.Disk) (path : Text) : Option Files.Location :=
  match disk.locate path with
  | .ok location =>
    match disk.root.get? location with
    | some (.file _) => some location
    | _ => none
  | .error _ => none

/-- The path of the file that a target names. -/
def resolve (disk : Files.Disk) (target : Text) (documentDirectory : Option Text) (roots : List Text) :
    Except ExtractError Text :=
  let paths := candidates target documentDirectory roots
  match paths.findSome? (fileLocation? disk) with
  | some location => .ok (Files.Disk.pathOf location)
  | none => .error (.targetNotFound target paths.length)

end Target

end Excerpt
