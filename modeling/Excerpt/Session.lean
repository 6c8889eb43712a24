import Excerpt.Extractor
import Excerpt.Registry
import Excerpt.Target

/-! # Sessions

A session serves the directives of one run. It holds the language registry, the roots in which targets are
looked for, one cache for each extractor, and the report of the directives that failed. -/

namespace Excerpt

/-- A directive that failed, and where it stands. -/
structure Failure where
  document : Text
  message : Text
  /-- Line and column count from one. -/
  line : Nat
  column : Nat
deriving DecidableEq, Repr, Inhabited

/-- The text of a directive that was found. -/
structure Excerpted where
  text : Text
  language : Text
  highlights : List Nat
deriving DecidableEq, Repr, Inhabited

/-- What lives as long as one run. -/
structure Session where
  registry : Registry
  roots : List Text
  /-- The caches by the names of their extractors. -/
  caches : List (Text × Cache)
  /-- The failures so far, in order. -/
  report : List Failure
deriving Repr, Inhabited

namespace Failure

/-- What a user is told. -/
def display (failure : Failure) : Text :=
  failure.document ++ ':' :: Text.ofNat failure.line ++ ':' :: Text.ofNat failure.column ++ ": ".toList ++
    failure.message

end Failure

namespace Session

/-- A session that has served no directive yet. -/
def new (registry : Registry) (roots : List Text) : Session := ⟨registry, roots, [], []⟩

/-- Adds a failure to the report. -/
def record (session : Session) (failure : Failure) : Session :=
  { session with report := session.report ++ [failure] }

/-- The cache of an extractor. -/
def cache? (session : Session) (name : Text) : Option Cache := session.caches.lookup name

/-- The text that a directive asks for in the file at `path`. -/
def extractFrom [Backend] (disk : Files.Disk) (session : Session) (directive : Directive) (path : Text) :
    Session × Except ExtractError Text :=
  match session.registry.resolve? directive.language with
  | none => (session, Extractor.whole disk directive.language path directive)
  | some name =>
    match (session.cache? name).or ((session.registry.create? name).map fun _ => Cache.empty) with
    | none => (session, .error (.unsupportedSelector directive.language directive.selector))
    | some cache =>
      let (cache, text) := Extractor.member disk cache path directive
      ({ session with caches := Table.insert name cache session.caches }, text)

/-- The excerpt that a directive asks for. -/
def extract [Backend] (disk : Files.Disk) (session : Session) (directive : Directive)
    (documentDirectory : Option Text) : Session × Except ExtractError Excerpted :=
  match Target.resolve disk directive.path documentDirectory session.roots with
  | .error e => (session, .error e)
  | .ok path =>
    let (session, text) := session.extractFrom disk directive path
    (session, text.map fun text => ⟨text, directive.language, directive.highlights⟩)

/-- The excerpt that the text of a directive asks for. -/
def extractText [Backend] (disk : Files.Disk) (session : Session) (expression : Text)
    (documentDirectory : Option Text) : Session × Except ExtractError Excerpted :=
  match Directive.parse? expression with
  | none => (session, .error (.invalidDirective expression))
  | some directive => session.extract disk directive documentDirectory

end Session

end Excerpt
