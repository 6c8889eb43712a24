import Excerpt.Config.Reader
import Excerpt.Files.Disk
import Excerpt.Registry

/-! # Configuration

A configuration names the roots in which targets are looked for and further language tags. `Config.load` reads
one and accepts it only if it is valid: no root or tag is blank, and every tag leads to an extractor
(`Config.validate` tells all that is wrong). -/

namespace Excerpt

/-- The settings of a run. -/
structure Config where
  /-- The roots in which targets are looked for, in order. -/
  roots : List Text
  /-- Further language tags with what they lead to. -/
  languages : List (Text × Text)
  ascending : (languages.map Prod.fst).Pairwise (· < ·)
deriving DecidableEq, Repr

namespace Config

/-- Something that is wrong with the settings. -/
inductive Issue where
  | blankRoot (index : Nat)
  | blankTag (target : Text)
  | unknownExtractor (tag target : Text)
deriving DecidableEq, Repr, Inhabited

/-- Why a configuration is refused. The path is there if it came from a file. -/
inductive Error where
  | unreadable (path : Text) (cause : Files.DiskError)
  /-- The text is malformed or does not have the shape of a configuration. -/
  | malformed (path : Option Text)
  | invalid (path : Option Text) (issues : List Issue)
deriving DecidableEq, Repr, Inhabited

/-- The name of the configuration file that is used unless another is named. -/
def defaultFile : Text := "codesnip.toml".toList

/-- The settings without a configuration file. -/
def empty : Config := ⟨[], [], .nil⟩

instance : Inhabited Config := ⟨empty⟩

namespace Issue

/-- What a user is told. -/
def message : Issue → Text
  | blankRoot index => "sources.roots[".toList ++ Text.ofNat index ++ "] is blank".toList
  | blankTag target => "blank language tag mapped to '".toList ++ target ++ "'".toList
  | unknownExtractor tag target =>
    "language '".toList ++ tag ++ "' maps to unknown extractor '".toList ++ target ++ "'".toList

/-- What a user is told of several issues, one in a line. -/
def messages (issues : List Issue) : Text := Text.joinWith ['\n'] (issues.map message)

end Issue

namespace Error

/-- The path in round brackets, if there is one. -/
def pathNote : Option Text → Text
  | some path => " (".toList ++ path ++ ")".toList
  | none => []

/-- What a user is told. What is wrong with a malformed text is not said in words. -/
def message : Error → Text
  | unreadable path cause => "failed to read config from ".toList ++ path ++ ": ".toList ++ cause.message
  | malformed path => "failed to parse config TOML".toList ++ pathNote path ++ ": <toml>".toList
  | invalid path issues => "invalid config".toList ++ pathNote path ++ ": ".toList ++ Issue.messages issues

end Error

/-! ### The shape of a configuration -/

/-- The text that a value is. -/
def asText? : Value → Option Text
  | .text t => some t
  | _ => none

/-- The texts that an array holds. -/
def asTexts? : Value → Option (List Text)
  | .array items => items.mapM asText?
  | _ => none

/-- The roots in the value of `sources`: a table that holds nothing else, or an array that starts with them.
-/
def asRoots? : Value → Option (List Text)
  | .table _ [] => some []
  | .table _ [(key, value)] => if key = "roots".toList then asTexts? value else none
  | .array [] => some []
  | .array (first :: _) => asTexts? first
  | _ => none

/-- The tags in the value of `languages`. -/
def asLanguages? : Value → Option (List (Text × Text))
  | .table _ entries => entries.mapM fun p => (asText? p.2).map (p.1, ·)
  | _ => none

/-- The configuration that the entries of a document are. -/
def ofEntries? (entries : Entries) : Option Config :=
  if entries.all fun p => p.1 == "sources".toList || p.1 == "languages".toList then
    match ((entries.lookup "sources".toList).map asRoots?).getD (some []),
        ((entries.lookup "languages".toList).map asLanguages?).getD (some []) with
    | some roots, some languages => some ⟨roots, Table.ofEntries languages, Table.ascending_ofEntries languages⟩
    | _, _ => none
  else none

/-! ### Validity -/

/-- The indices from `start` on of the roots that are blank. -/
def blankIndices (start : Nat) : List Text → List Nat
  | [] => []
  | root :: rest => (if root.allBlank then [start] else []) ++ blankIndices (start + 1) rest

/-- What is wrong with a tag and what it leads to. -/
def languageIssues (tag target : Text) : List Issue :=
  (if tag.allBlank then [.blankTag target] else []) ++
    (if (Registry.withDefaults.resolve? target).isNone then [.unknownExtractor tag target] else [])

/-- All that is wrong with the settings: the roots in order, then the tags in order. -/
def issues (config : Config) : List Issue :=
  (blankIndices 0 config.roots).map .blankRoot ++ config.languages.flatMap fun p => languageIssues p.1 p.2

/-- Accepts the settings, or says all that is wrong with them. -/
def validate (config : Config) : Except (List Issue) Unit :=
  if config.issues.isEmpty then .ok () else .error config.issues

/-- Reads a configuration; `path` is the file it came from. -/
def parse (path : Option Text) (text : Text) : Except Error Config :=
  match (Reader.document? text).bind ofEntries? with
  | none => .error (.malformed path)
  | some config =>
    match config.validate with
    | .ok () => .ok config
    | .error issues => .error (.invalid path issues)

/-- Reads a configuration file. -/
def load (disk : Files.Disk) (path : Text) : Except Error Config :=
  match disk.readText path with
  | .ok text => parse (some path) text
  | .error e => .error (.unreadable path e)

/-! ### What the settings mean -/

/-- The roots as seen from the directory of the configuration file. -/
def sourceRoots (config : Config) (base : Text) : List Text :=
  config.roots.map fun root => Path.join base root.trim

/-- The registry with a further tag, if it leads to an extractor. -/
def addLanguage (registry : Registry) (tag target : Text) : Registry :=
  match registry.resolve? target with
  | some name => registry.setAlias tag name
  | none => registry

/-- The built-in registry with the further language tags. -/
def registry (config : Config) : Registry :=
  config.languages.foldl (fun registry p => addLanguage registry p.1 p.2) Registry.withDefaults

end Config

end Excerpt
