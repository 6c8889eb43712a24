import Excerpt.Proofs.PathSpelling
import Excerpt.Proofs.SessionMemory
import Mathlib.Data.List.DropRight

/-!
# Runs of a cache

`Cache.after` is the cache after a history of requests. What it remembers can be read off the history: since it was last
cleared, the first build for a spelling of the path that did not fail (`firstBuilt?`). One request keeps this
(`get?_serve`), so it holds after every history (`get?_after`). The paths that are counted are `Represents`: one
spelling of each path that is remembered.
-/

namespace Excerpt

namespace Cache
/-- What is asked of a cache. -/
inductive Request (ε : Type) where
  | fetch (path : Text) (build : Text → Except ε IndexedSource)
  | contains (path : Text)
  | clear

variable {ε : Type} {cache : Cache} {path : Text} {paths : List Text}

/-- The cache after a request. -/
def serve (cache : Cache) : Request ε → Cache
  | .fetch path build => (cache.fetch path build).1
  | .contains _ => cache
  | .clear => empty

/-- The cache after a history of requests. -/
def after (history : List (Request ε)) : Cache := history.foldl serve empty

def Request.isClear : Request ε → Bool
  | .clear => true
  | _ => false

/-- What the request builds for a path, if it asks for a spelling of it and the build does not fail. -/
def Request.built? (path : Text) : Request ε → Option IndexedSource
  | .fetch p build => if Path.Same path p then (build p).toOption else none
  | _ => none

/-- What was first built for a path since the cache was last cleared. -/
def firstBuilt? (path : Text) (history : List (Request ε)) : Option IndexedSource :=
  (history.rtakeWhile fun request => !request.isClear).findSome? (·.built? path)

theorem after_concat (history : List (Request ε)) (request : Request ε) :
    after (history ++ [request]) = (after history).serve request := by
  simp [after]

theorem firstBuilt?_concat (path : Text) (history : List (Request ε)) (request : Request ε) :
    firstBuilt? path (history ++ [request]) =
      if request.isClear then none else (firstBuilt? path history).or (request.built? path) := by
  unfold firstBuilt?
  rw [List.rtakeWhile_concat]
  cases request.isClear with
  | true => rfl
  | false => simp [List.findSome?_append]

theorem get?_serve (cache : Cache) (request : Request ε) (path : Text) :
    (cache.serve request).get? path =
      if request.isClear then none else (cache.get? path).or (request.built? path) := by
  cases request with
  | fetch p build =>
    have hget : ((cache.fetch p build).1).get? path = _ := get?_fetch cache p path
    simp only [Path.same_iff, serve, Request.isClear, Request.built?, hget]
    split
    · rfl
    · simp
  | contains p => simp [serve, Request.isClear, Request.built?]
  | clear => rfl

theorem get?_after (history : List (Request ε)) (path : Text) :
    (after history).get? path = firstBuilt? path history := by
  induction history using List.reverseRecOn with
  | nil => rfl
  | append_singleton history request ih => rw [after_concat, get?_serve, ih, firstBuilt?_concat]

/-! ### Counting -/

/-- The paths are those that the cache remembers, each in one spelling. -/
structure Represents (paths : List Text) (cache : Cache) : Prop where
  keys : cache.entries.map Prod.fst = paths.map Path.components
  distinct : paths.Pairwise fun p q => ¬ Path.Same p q

namespace Represents

theorem isSome_get?_iff (h : Represents paths cache) :
    (cache.get? path).isSome ↔ ∃ p ∈ paths, Path.Same path p := by
  have hkey : (cache.get? path).isSome ↔ Path.components path ∈ cache.entries.map Prod.fst := by
    rw [get?, List.lookup_isSome_iff, List.mem_map]
    simp only [beq_iff_eq]
    exact exists_congr fun p => and_congr_right' eq_comm
  rw [hkey, h.keys, List.mem_map]
  simp only [Path.same_iff, eq_comm]

theorem serve (h : Represents paths cache) (request : Request ε) :
    ∃ paths', Represents paths' (cache.serve request) := by
  cases request with
  | contains p => exact ⟨paths, h⟩
  | clear => exact ⟨[], rfl, .nil⟩
  | fetch path build =>
    unfold Cache.serve fetch
    dsimp only
    split
    next => exact ⟨paths, h⟩
    next hnone =>
      split
      next entry _ =>
        -- nothing is remembered for the path, so it is none of the paths so far
        have hnew : ∀ p ∈ paths, ¬ Path.Same path p := by
          intro p hp hsame
          have hsome := h.isSome_get?_iff.2 ⟨p, hp, hsame⟩
          simp [hnone] at hsome
        exact ⟨path :: paths, by simp [h.keys], List.pairwise_cons.2 ⟨hnew, h.distinct⟩⟩
      next => exact ⟨paths, h⟩

theorem after (history : List (Request ε)) : ∃ paths, Represents paths (after history) := by
  induction history using List.reverseRecOn with
  | nil => exact ⟨[], rfl, .nil⟩
  | append_singleton history request ih =>
    obtain ⟨paths, h⟩ := ih
    rw [after_concat]
    exact h.serve request

end Represents

/-- After any history of requests, a cache returns what was first built for a path since it was last cleared, and builds
only if there is no such thing. A build that fails changes nothing. What is remembered, and how many paths are, can be
read off the history too. -/
theorem fetch_after (history : List (Request ε)) (path : Text) :
    (∀ build : Text → Except ε IndexedSource, (after history).fetch path build =
      match firstBuilt? path history, build path with
      | some entry, _ => (after history, .remembered entry)
      | none, .ok entry => (after (history ++ [.fetch path build]), .built entry)
      | none, .error e => (after history, .failed e)) ∧
    (after history).contains path = (firstBuilt? path history).isSome ∧
    ∃ paths : List Text, (after history).size = paths.length ∧ paths.Pairwise (fun p q => ¬ Path.Same p q) ∧
      ∀ p, (firstBuilt? p history).isSome ↔ ∃ q ∈ paths, Path.Same p q := by
  refine ⟨fun build => ?_, ?_, ?_⟩
  · rw [after_concat, serve, ← get?_after]
    unfold fetch
    cases hget : (after history).get? path with
    | some entry => rfl
    | none => cases hbuild : build path <;> rfl
  · rw [contains, get?_after]
  · obtain ⟨paths, h⟩ := Represents.after history
    refine ⟨paths, ?_, h.distinct, fun p => ?_⟩
    · rw [size, ← List.length_map Prod.fst, h.keys, List.length_map]
    · rw [← get?_after, h.isSome_get?_iff]

end Cache

end Excerpt
