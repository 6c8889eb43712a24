import Excerpt.Text.Basic

/-! # Paths

A path is a text whose parts are divided by slashes. `Path.components` are the parts that count when paths are
compared: repeated slashes, a slash at the end, and dots other than a leading one do not matter. Joining and
taking the parent are operations on the text; what a path leads to is a matter of the files. -/

namespace Excerpt

namespace Path

/-- The component that stands for the start of an absolute path. -/
def rootName : Text := ['/']

/-- The component that stands for the directory itself. -/
def dot : Text := ['.']

/-- The component that stands for the directory above. -/
def dotDot : Text := ['.', '.']

/-- Whether the path starts at the root. -/
def isAbsolute (path : Text) : Bool := path.head? == some '/'

/-- The path of `path` as seen from `base`. -/
def join (base path : Text) : Text :=
  if isAbsolute path then path
  else if base.isEmpty || base.getLast? == some '/' then base ++ path
  else base ++ '/' :: path

/-- Whether the part of a path is no name. -/
def isIdle (part : Text) : Bool := part.isEmpty || part == dot

/-- Whether the part of a path can name an entry of a directory. -/
def isName (part : Text) : Bool := !isIdle part && part != dotDot && !part.contains '/'

/-- The parts of a path that count: the root, a leading dot, and the names and double dots. -/
def components (path : Text) : List Text :=
  let parts := path.split '/'
  let names := parts.filter fun part => !isIdle part
  if isAbsolute path then rootName :: names
  else if parts.head? == some dot then dot :: names
  else names

/-- The path with the given components. -/
def ofComponents : List Text → Text
  | [] => []
  | first :: rest =>
    if first = rootName then rootName ++ Text.joinWith ['/'] rest else Text.joinWith ['/'] (first :: rest)

/-- The path without its last component; the empty path and the root have none. -/
def parent? (path : Text) : Option Text :=
  let parts := components path
  if parts.isEmpty || parts == [rootName] then none else some (ofComponents parts.dropLast)

/-- The path, or a dot in place of the empty one. -/
def orDot (path : Text) : Text := if path.isEmpty then dot else path

/-- The directory that holds what the path leads to, if the path names one. -/
def directory? (path : Text) : Option Text := (parent? path).filter fun p => !p.isEmpty

/-- The last component, if it is a name. -/
def fileName? (path : Text) : Option Text :=
  (components path).getLast?.filter fun name => !(name == rootName || name == dot || name == dotDot)

/-- Whether the name has something before its last dot and `extension` after it. -/
def hasExtension (extension name : Text) : Bool :=
  let stem := name.take (name.length - (extension.length + 1))
  !stem.isEmpty && name == stem ++ '.' :: extension

end Path

end Excerpt
