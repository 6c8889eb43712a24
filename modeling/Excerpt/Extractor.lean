import Excerpt.Cache
import Excerpt.Directive
import Excerpt.ExtractError
import Excerpt.Snippet.Extract
import Excerpt.Source.Members

/-! # Extractors

An extractor turns a directive into text, given the file that it names. `Extractor.member` knows the members
of C# sources and remembers them; `Extractor.whole` includes files of any language as a whole and reads them
every time. -/

namespace Excerpt

namespace Extractor

/-- The index of the members of a C# source. -/
def indexOf [Backend] (source : Text) : Index := Index.build (Source.declarationTree source)

/-- Reads a C# source and builds its index. Only the reading can fail, since every source has a syntax tree. -/
def load [Backend] (disk : Files.Disk) (path : Text) : Except ExtractError IndexedSource :=
  match disk.readText path with
  | .ok source => .ok ⟨path, source, indexOf source⟩
  | .error e => .error (.unreadable path e)

/-- The excerpt of an indexed source. -/
def select [Backend] (indexed : IndexedSource) (directive : Directive) : Except ExtractError Text :=
  match indexed.index.find directive.memberPattern with
  | .ok node => .ok (Snippet.extractSpans indexed.source directive.mode node.spans)
  | .error failure => .error (.ofLookup failure)

/-- The excerpt of a C# source, which is read only if it is not remembered. -/
def member [Backend] (disk : Files.Disk) (cache : Cache) (path : Text) (directive : Directive) :
    Cache × Except ExtractError Text :=
  let (cache, fetched) := cache.fetch path (load disk)
  (cache, match fetched.result with
    | .ok indexed => select indexed directive
    | .error e => .error e)

/-- The text of a whole file; `language` is named if the directive asks for a member. -/
def whole (disk : Files.Disk) (language path : Text) (directive : Directive) : Except ExtractError Text :=
  if !directive.memberPattern.isEmpty then .error (.unsupportedSelector language directive.selector)
  else match disk.readText path with
    | .ok source => .ok (Snippet.extractSpan source directive.mode ⟨0, source.byteLength⟩)
    | .error e => .error (.unreadable path e)

end Extractor

end Excerpt
