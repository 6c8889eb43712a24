import Excerpt.Command.Run

/-! # What a command looks at

`Command.needs` lists the places on the disk that a command line looks at, as far as the disk that is known
tells: the configuration names roots, and the documents name targets. Once a disk holds all of them, running
the command on it is running it on the whole disk. -/

namespace Excerpt

namespace Command

/-- A place that a command looks at. -/
inductive Need where
  /-- A file, or the fact that there is a directory. -/
  | entry (path : Text)
  /-- A file, or a directory with all that is in it. -/
  | tree (path : Text)
deriving DecidableEq, Repr, Inhabited

/-- The places where the target of a directive is looked for. -/
def targetNeeds (roots : List Text) (directory : Option Text) (directive : Directive) : List Need :=
  (Target.candidates directive.path directory roots).map .entry

/-- The places where the targets of a document are looked for. -/
def documentNeeds (disk : Files.Disk) (roots : List Text) (entry : Entry) : List Need :=
  match disk.readText entry.document with
  | .error _ => []
  | .ok markdown =>
    ((Block.cut markdown.rawLines).filterMap Document.directive?).flatMap
      (targetNeeds roots (Path.directory? entry.document))

/-- The places that rendering looks at, given the roots. -/
def renderNeeds (disk : Files.Disk) (roots : List Text) (path : Text) : List Need :=
  match discover disk path with
  | .error _ => []
  | .ok entries => entries.flatMap (documentNeeds disk roots)

/-- The roots of a session that can be opened. -/
def knownRoots (disk : Files.Disk) (scope : Scope) : List Text :=
  match openSession disk scope with
  | .ok session => session.roots
  | .error _ => []

/-- The places that a task looks at. -/
def taskNeeds (disk : Files.Disk) (scope : Scope) : Task → List Need
  | .index file => [.entry file]
  | .extract directive => ((Directive.parse? directive).map (targetNeeds (knownRoots disk scope) none)).getD []
  | .render path out _ _ =>
    .tree path :: (out.map Need.tree).toList ++ renderNeeds disk (knownRoots disk scope) path

/-- The places that a command line looks at. -/
def needs (disk : Files.Disk) (arguments : List Text) : List Need :=
  match parse arguments with
  | .error _ => []
  | .ok (scope, task) => .entry (scope.config.getD Config.defaultFile) :: taskNeeds disk scope task

end Command

end Excerpt
