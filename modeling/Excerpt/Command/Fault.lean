import Excerpt.Config
import Excerpt.ExtractError
import Excerpt.Files.Write

/-! # Faults

What stops a command, with what the user is told (`Fault.message`), the cause that lies below it
(`Fault.cause?`), and the report of both (`Fault.report`). -/

namespace Excerpt

namespace Command

/-- What stops a command. -/
inductive Fault where
  | config (error : Config.Error)
  | extract (error : ExtractError)
  | write (error : Files.WriteError)
  /-- A file that the command works on cannot be read. -/
  | read (path : Text) (cause : Files.DiskError)
  /-- A directory cannot be searched. -/
  | search (path : Text) (cause : Files.DiskError)
  | noDocuments (path : Text)
deriving DecidableEq, Repr, Inhabited

namespace Fault

/-- What the user is told. -/
def message : Fault → Text
  | config error => error.message
  | extract error => error.message
  | write error => error.message
  | read path _ => "failed to read ".toList ++ path
  | search path cause => "IO error for operation on ".toList ++ path ++ ": ".toList ++ cause.message
  | noDocuments path => "No .md files found under ".toList ++ path

/-- The cause that lies below. -/
def cause? : Fault → Option Text
  | config (.unreadable _ cause) => some cause.message
  | config (.invalid _ issues) => some (Config.Issue.messages issues)
  | extract (.unreadable _ cause) => some cause.message
  | write (.disk _ cause) => some cause.message
  | read _ cause => some cause.message
  | search _ cause => some cause.message
  | _ => none

/-- Whether the report ends with the message, and nothing follows it. -/
def isBare : Fault → Bool
  | config (.malformed _) => true
  | _ => false

/-- Each line with four spaces before it. -/
def indentLines (t : Text) : Text :=
  Text.joinWith ['\n'] ((t.split '\n').map fun line => List.replicate 4 ' ' ++ line)

/-- The report of a fault. -/
def report (fault : Fault) : Text :=
  "Error: ".toList ++ fault.message ++
    (if fault.isBare then [] else
      match fault.cause? with
      | some cause => "\n\nCaused by:\n".toList ++ indentLines cause ++ ['\n']
      | none => ['\n'])

end Fault

end Command

end Excerpt
