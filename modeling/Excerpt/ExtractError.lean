import Excerpt.Files.Disk
import Excerpt.Index.Lookup

/-! # Why an excerpt cannot be shown

The causes for which a directive gives no snippet, and what a user is told (`ExtractError.message`). None of them is a
source that cannot be parsed: a `Backend` has a syntax tree for every source. -/

namespace Excerpt

/-- Why a directive gives no snippet. -/
inductive ExtractError where
  /-- The text is no directive. -/
  | invalidDirective (expression : Text)
  /-- No candidate for the target is a file. -/
  | targetNotFound (path : Text) (searched : Nat)
  | memberNotFound (pattern : Text) (suggestion : Option Text)
  /-- The language has no extractor that knows members. -/
  | unsupportedSelector (language selector : Text)
  | unreadable (path : Text) (cause : Files.DiskError)
deriving DecidableEq, Repr, Inhabited

namespace ExtractError

/-- The failure of a look-up. -/
def ofLookup (failure : Index.LookupFailure) : ExtractError :=
  .memberNotFound failure.pattern failure.suggestion

/-- What a user is told. -/
def message : ExtractError → Text
  | invalidDirective expression => "invalid extraction rule: ".toList ++ expression
  | targetNotFound path searched =>
    "target not found: ".toList ++ path ++ " (searched ".toList ++ Text.ofNat searched ++ " location(s))".toList
  | memberNotFound pattern suggestion =>
    "member not found: ".toList ++ pattern ++
      (match suggestion with
        | some key => " (did you mean '".toList ++ key ++ "'?)".toList
        | none => [])
  | unsupportedSelector language selector =>
    "no member extractor for language '".toList ++ language ++ "'; cannot resolve selector '".toList ++
      selector ++ "'".toList
  | unreadable path cause => "I/O error reading ".toList ++ path ++ ": ".toList ++ cause.message

end ExtractError

end Excerpt
