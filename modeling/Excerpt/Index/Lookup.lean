import Excerpt.Backend
import Excerpt.Index.Build

/-! # Looking up a selector

`Index.find` follows the keys of a selector from the root. A failure names the first key that leads nowhere
and, if a key of that level is close to it, that key as a suggestion. -/

namespace Excerpt

namespace Index

/-- A selector that leads nowhere. -/
structure LookupFailure where
  pattern : Text
  /-- The first key that is not there. -/
  chunk : Text
  /-- A key of the same level that is close to it. -/
  suggestion : Option Text
deriving DecidableEq, Repr, Inhabited

namespace LookupFailure

/-- The text of the failure. -/
def message (failure : LookupFailure) : Text :=
  "no member matches '".toList ++ failure.pattern ++ "' (no '".toList ++ failure.chunk ++
    "' at this level)".toList

end LookupFailure

/-- How alike a suggestion must be at least. -/
def suggestionThreshold : Float := 0.8

/-- The key with the highest score that reaches the threshold; of several the last. -/
def bestKey (score : Text → Float) (keys : List Text) : Option Text :=
  (keys.foldl (fun best key =>
      let s := score key
      if s ≥ suggestionThreshold then
        match best with
        | some (b, _) => if b ≤ s then some (s, key) else best
        | none => some (s, key)
      else best)
    (none : Option (Float × Text))).map (·.2)

/-- The key of a level that is close to the one that is not there. -/
def suggest [Backend] (node : Node) (chunk : Text) : Option Text :=
  bestKey (fun key => Backend.likeness key chunk) node.keys

/-- Follows keys from a node. -/
def follow [Backend] (pattern : Text) (node : Node) : List Text → Except LookupFailure Node
  | [] => .ok node
  | chunk :: rest =>
    match node.child? chunk with
    | some next => follow pattern next rest
    | none => .error ⟨pattern, chunk, suggest node chunk⟩

/-- The node that a selector addresses; the root, and with it the whole file, for an empty one. -/
def find [Backend] (index : Index) (pattern : Text) : Except LookupFailure Node :=
  follow pattern index.root (Selector.chunks pattern)

end Index

end Excerpt
