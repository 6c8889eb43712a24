import Excerpt.Backend.Standard
import Excerpt.Command.Arguments
import Excerpt.Command.Fault
import Excerpt.Diff
import Excerpt.Document.Render

/-! # Commands

`Command.run` carries out a command line on a disk: it gives the exit code, what goes to the two output
streams, and the disk after it. Rendering reads, renders and writes one document after the other, and stops at
the first fault; a check writes nothing. -/

namespace Excerpt

namespace Command

/-- What a command leaves. -/
structure Outcome where
  code : Nat
  stdout : Text
  stderr : Text
  disk : Files.Disk
deriving Repr, Inhabited

/-- A document and its path below the directory that is rendered. -/
structure Entry where
  document : Text
  relative : Text
deriving DecidableEq, Repr, Inhabited

/-- How many documents ended in which way. A document is counted once at most, so the counts are numbers of 32 bits if
the number of documents is one. -/
structure Tally where
  written : Nat
  unchanged : Nat
  stale : Nat
deriving DecidableEq, Repr, Inhabited

/-- How to render. -/
structure Plan where
  out : Option Text
  check : Bool
  diff : Bool
deriving DecidableEq, Repr, Inhabited

/-- Rendering under way. -/
structure Progression where
  disk : Files.Disk
  session : Session
  stdout : Text
  stderr : Text
  tally : Tally
deriving Repr, Inhabited

/-- Where rendering starts. -/
def Progression.start (disk : Files.Disk) (session : Session) : Progression :=
  ⟨disk, session, [], [], ⟨0, 0, 0⟩⟩

/-- The mark of success. -/
def tick : Text := "✓ ".toList

/-- The mark of failure. -/
def cross : Text := "✗ ".toList

/-- The extension of documents. -/
def documentExtension : Text := "md".toList

/-- The configuration and the directory at which its roots start. -/
def settings (disk : Files.Disk) (scope : Scope) : Except Fault (Config × Text) :=
  let standard := Path.join disk.workingPath Config.defaultFile
  match scope.config.or (if disk.isFile standard then some standard else none) with
  | none => .ok (Config.empty, disk.workingPath)
  | some path =>
    match Config.load disk path with
    | .ok config => .ok (config, (Path.directory? path).getD disk.workingPath)
    | .error e => .error (.config e)

/-- The roots of the configuration and then those of the command line; the working directory if there are
none. -/
def rootsOf (disk : Files.Disk) (scope : Scope) (config : Config) (base : Text) : List Text :=
  let roots := config.sourceRoots base ++ scope.roots
  if roots.isEmpty then [disk.workingPath] else roots

/-- The session of a command. -/
def openSession (disk : Files.Disk) (scope : Scope) : Except Fault Session :=
  (settings disk scope).map fun p => Session.new p.1.registry (rootsOf disk scope p.1 p.2)

/-- The documents in a directory, in the order of their paths. -/
def documentsIn (path : Text) (tree : Files.Tree) : List Entry :=
  let isDocument (p : Files.Location × Files.Content) : Bool :=
    (p.1.getLast?.map (Path.hasExtension documentExtension)).getD false
  ((tree.files []).filter isDocument).map fun p =>
    let relative := Text.joinWith ['/'] p.1
    ⟨Path.join path relative, relative⟩

/-- The documents to render: a file as it is, or those in a directory. -/
def discover (disk : Files.Disk) (path : Text) : Except Fault (List Entry) :=
  match disk.locate path with
  | .error e => .error (.search path e)
  | .ok location =>
    match disk.root.get? location with
    | none => .error (.search path .notFound)
    | some (.file _) => .ok [⟨path, (Path.fileName? path).getD path⟩]
    | some tree =>
      let entries := documentsIn path tree
      if entries.isEmpty then .error (.noDocuments path) else .ok entries

/-- The difference between the current and the rendered document. -/
def diffText (file current rendered : Text) : Text :=
  "\n--- ".toList ++ file ++ " (current)\n+++ ".toList ++ file ++ " (rendered)\n".toList ++
    Diff.display current rendered

/-- What a file holds, where one that cannot be read counts as empty. -/
def currentText (disk : Files.Disk) (target : Text) : Text := (disk.readText target).toOption.getD []

/-- Deals with the text of a rendered document, with an output directory. -/
def place (plan : Plan) (target rendered : Text) (p : Progression) : Progression × Option Fault :=
  let current := currentText p.disk target
  if current = rendered then
    ({ p with tally := { p.tally with unchanged := p.tally.unchanged + 1 } }, none)
  else
    let p := if plan.diff then { p with stdout := p.stdout ++ diffText target current rendered } else p
    if plan.check then
      ({ p with
          stderr := p.stderr ++ cross ++ target ++ ": out of date\n".toList
          tally := { p.tally with stale := p.tally.stale + 1 } }, none)
    else
      match p.disk.writeWhole target rendered with
      | (disk, .error e) => ({ p with disk }, some (.write e))
      | (disk, .ok ()) =>
        ({ p with
            disk
            stdout := p.stdout ++ tick ++ target ++ ['\n']
            tally := { p.tally with written := p.tally.written + 1 } }, none)

/-- Renders one document. -/
def renderEntry [Backend] (plan : Plan) (entry : Entry) (p : Progression) : Progression × Option Fault :=
  match p.disk.readText entry.document with
  | .error e => (p, some (.read entry.document e))
  | .ok markdown =>
    let (session, rendered) := Document.render p.disk entry.document p.session markdown
    let p := { p with session }
    match plan.out with
    | some out => place plan (Path.join out entry.relative) rendered p
    | none =>
      let shown := if plan.diff then diffText entry.document markdown rendered else rendered
      ({ p with stdout := p.stdout ++ shown }, none)

/-- Renders documents in order, up to the first fault. -/
def renderAll [Backend] (plan : Plan) : List Entry → Progression → Progression × Option Fault
  | [], p => (p, none)
  | entry :: rest, p =>
    match renderEntry plan entry p with
    | (p, some fault) => (p, some fault)
    | (p, none) => renderAll plan rest p

/-- A line of the summary. -/
def summaryLine (n : Nat) (words : String) : Text :=
  "  ".toList ++ Text.ofNat n ++ ' ' :: words.toList ++ ['\n']

/-- What is printed once all documents are rendered into a directory. -/
def summary (check : Bool) (tally : Tally) (failed : Nat) : Text :=
  "\nSummary:\n".toList ++ summaryLine tally.written "written" ++ summaryLine tally.unchanged "unchanged" ++
    (if check then summaryLine tally.stale "out of date" else []) ++ summaryLine failed "failed directives"

/-- The outcome once all documents are rendered. -/
def finish (plan : Plan) (p : Progression) : Outcome :=
  let report := p.session.report
  { code := if report.isEmpty && p.tally.stale = 0 then 0 else 1
    stdout := p.stdout ++ (if plan.out.isSome then summary plan.check p.tally report.length else [])
    stderr := p.stderr ++ report.flatMap fun failure => cross ++ failure.display ++ ['\n']
    disk := p.disk }

/-- The outcome of a fault before anything was done. -/
def stopped (disk : Files.Disk) (fault : Fault) : Outcome := ⟨1, [], fault.report, disk⟩

/-- Renders a document or the documents in a directory. -/
def render [Backend] (disk : Files.Disk) (scope : Scope) (path : Text) (plan : Plan) : Outcome :=
  match openSession disk scope with
  | .error fault => stopped disk fault
  | .ok session =>
    match discover disk path with
    | .error fault => stopped disk fault
    | .ok entries =>
      match renderAll plan entries (.start disk session) with
      | (p, some fault) => ⟨1, p.stdout, p.stderr ++ fault.report, p.disk⟩
      | (p, none) => finish plan p

/-- Prints the snippet of a directive. -/
def extract [Backend] (disk : Files.Disk) (scope : Scope) (directive : Text) : Outcome :=
  match openSession disk scope with
  | .error fault => stopped disk fault
  | .ok session =>
    match (session.extractText disk directive none).2 with
    | .ok excerpt => ⟨0, excerpt.text ++ ['\n'], [], disk⟩
    | .error e => stopped disk (.extract e)

/-- The line number of a byte offset. -/
def lineOf (source : Text) (offset : Nat) : Nat := (Text.takeBytes offset source).count '\n' + 1

/-- Prints the selectors of a source. -/
def index [Backend] (disk : Files.Disk) (file : Text) : Outcome :=
  match disk.readText file with
  | .error e => stopped disk (.read file e)
  | .ok source =>
    let row (p : QualifiedPath) : Text :=
      p.path ++ "  (".toList ++ p.kind.word ++ ", line ".toList ++ Text.ofNat (lineOf source p.span.start) ++
        ")\n".toList
    ⟨0, (Source.declarationTree source).qualifiedPaths.flatMap row, [], disk⟩

/-- Carries out a task. -/
def perform [Backend] (disk : Files.Disk) (scope : Scope) : Task → Outcome
  | .extract directive => extract disk scope directive
  | .render path out check diff => render disk scope path ⟨out, check, diff⟩
  | .index file => index disk file

/-- Carries out a command line. -/
def run [Backend] (disk : Files.Disk) (arguments : List Text) : Outcome :=
  match parse arguments with
  | .ok (scope, task) => perform disk scope task
  | .error .usage => ⟨2, [], "<usage>".toList, disk⟩
  | .error .version => ⟨0, "codesnip 0.1.0\n".toList, [], disk⟩
  | .error .help => ⟨0, [], [], disk⟩

end Command

end Excerpt
