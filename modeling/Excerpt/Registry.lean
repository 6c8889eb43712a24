import Excerpt.Table
import Excerpt.Text.Blank
import Excerpt.Text.LowerCase
import Excerpt.Text.Quoted

/-! # Language registry

The registry says which extractor serves a language tag of a directive. Extractors have names; other tags lead
to a name. Tags are compared trimmed and in lower case (`Registry.normalize`), and the name of an extractor
wins over a tag of the same form. -/

namespace Excerpt

/-- Which extractor serves which language tag. -/
structure Registry where
  /-- The names of the extractors, ascending. -/
  extractors : List (Text × Unit)
  /-- The normalized tags with the names they lead to, ascending. -/
  aliases : List (Text × Text)
deriving DecidableEq, Repr, Inhabited

/-- A tag that would lead to no extractor. -/
structure UnknownExtractor where
  tag : Text
  target : Text
deriving DecidableEq, Repr, Inhabited

namespace UnknownExtractor

/-- What a user is told. -/
def message (e : UnknownExtractor) : Text :=
  "language tag '".toList ++ e.tag ++ "' points at unknown extractor '".toList ++ e.target ++ "'".toList

end UnknownExtractor

namespace Registry

/-- The name of the extractor for C#. -/
def csharp : Text := "csharp".toList

/-- The form in which tags are compared. -/
def normalize (tag : Text) : Text := tag.trim.lowerCase

/-- The registry without extractors. -/
def empty : Registry := ⟨[], []⟩

/-- The names of the extractors, ascending. -/
def names (registry : Registry) : List Text := registry.extractors.map Prod.fst

/-- Whether an extractor of that name exists. -/
def has (registry : Registry) (name : Text) : Bool := registry.names.contains name

/-- Adds an extractor. -/
def register (registry : Registry) (name : Text) : Registry :=
  { registry with extractors := Table.insert name () registry.extractors }

/-- Leads a tag to an extractor that exists. -/
def setAlias (registry : Registry) (tag name : Text) : Registry :=
  { registry with aliases := Table.insert (normalize tag) name registry.aliases }

/-- Leads a tag to the extractor whose name is the target in lower case. -/
def addAlias (registry : Registry) (tag target : Text) : Except UnknownExtractor Registry :=
  if registry.has target.lowerCase then .ok (registry.setAlias tag target.lowerCase) else .error ⟨tag, target⟩

/-- The name of the extractor that serves a tag. -/
def resolve? (registry : Registry) (tag : Text) : Option Text :=
  let tag := normalize tag
  if registry.has tag then some tag else registry.aliases.lookup tag

/-- The language that a new extractor of that name serves. -/
def create? (registry : Registry) (name : Text) : Option Text := if registry.has name then some csharp else none

/-- The registry with the built-in extractors and their usual tags. -/
def withDefaults : Registry :=
  ((empty.register csharp).setAlias "cs".toList csharp).setAlias "c#".toList csharp

/-- All that the registry holds, for people to read. -/
def describe (registry : Registry) : Text :=
  let names := registry.names.map Text.quote
  let aliases := registry.aliases.map fun p => p.1.quote ++ ": ".toList ++ p.2.quote
  "ExtractorRegistry \x7b extractors: [".toList ++ Text.joinWith ", ".toList names ++
    "], aliases: \x7b".toList ++ Text.joinWith ", ".toList aliases ++ "\x7d \x7d".toList

end Registry

end Excerpt
