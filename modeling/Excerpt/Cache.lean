import Excerpt.Index.Build
import Excerpt.Path

/-! # Remembered sources

A cache remembers sources with their indexes by the components of their paths. `Cache.fetch` returns what is
remembered, or builds and remembers it; a build that fails is not remembered. -/

namespace Excerpt

/-- The text of a file and the index of its members. -/
structure IndexedSource where
  path : Text
  source : Text
  index : Index
deriving Repr, Inhabited

/-- The sources that are remembered, by the components of their paths. -/
structure Cache where
  entries : List (List Text × IndexedSource)
deriving Repr, Inhabited

/-- How a request to a cache ended. -/
inductive Fetched (ε : Type) where
  | remembered (entry : IndexedSource)
  | built (entry : IndexedSource)
  | failed (error : ε)
deriving Repr, Inhabited

namespace Fetched

variable {ε : Type}

/-- The source that was asked for, or the error of the build. -/
def result : Fetched ε → Except ε IndexedSource
  | remembered entry => .ok entry
  | built entry => .ok entry
  | failed error => .error error

end Fetched

namespace Cache

/-- The cache that remembers nothing. -/
def empty : Cache := ⟨[]⟩

/-- What is remembered for a path. -/
def get? (cache : Cache) (path : Text) : Option IndexedSource := cache.entries.lookup (Path.components path)

/-- Whether anything is remembered for a path. -/
def contains (cache : Cache) (path : Text) : Bool := (cache.get? path).isSome

/-- Number of sources that are remembered. -/
def size (cache : Cache) : Nat := cache.entries.length

/-- Returns what is remembered for a path, or builds it and remembers it. -/
def fetch {ε : Type} (cache : Cache) (path : Text) (build : Text → Except ε IndexedSource) :
    Cache × Fetched ε :=
  match cache.get? path with
  | some entry => (cache, .remembered entry)
  | none =>
    match build path with
    | .ok entry => (⟨(Path.components path, entry) :: cache.entries⟩, .built entry)
    | .error error => (cache, .failed error)

end Cache

end Excerpt
