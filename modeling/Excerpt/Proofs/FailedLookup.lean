import Excerpt.Backend.Standard
import Excerpt.Index.Lookup
import Excerpt.Proofs.IndexContents

/-! # Where a lookup fails

A lookup follows the keys of a selector and fails at the first one that is not there (`follow_cases`). In the index of a
file a path leads somewhere exactly if it is empty or a segment of a chain (`isSome_walk?_build_iff`), so a lookup
fails at the shortest part of the selector that is no such segment. What is suggested in place of the failing key is
a key of the same level, whatever the scores are (`mem_of_bestKey`). -/

namespace Excerpt

namespace Index
variable {node reached : Node} {keys : List Text} {key chunk : Text}

/-! ### Suggestions -/

theorem mem_of_bestKey {score : Text → Float} (h : bestKey score keys = some key) : key ∈ keys := by
  unfold bestKey at h
  obtain ⟨best, hbest, rfl⟩ := Option.map_eq_some_iff.1 h
  clear h
  revert best
  -- the best key so far is one of those that were seen, whichever of the branches is taken
  refine List.foldlRecOn keys _ (motive := fun best : Option (Float × Text) => ∀ p, best = some p → p.2 ∈ keys)
    (by simp) ?_
  intro best hbest k hk
  have hnew : ∀ p, some (score k, k) = some p → p.2 ∈ keys := by
    rintro p ⟨⟩
    exact hk
  dsimp only
  split
  · split
    · split
      · exact hnew
      · exact hbest
    · exact hnew
  · exact hbest

theorem isSome_child?_iff : (node.child? key).isSome ↔ key ∈ node.keys := by
  rw [Node.child?, List.lookup_isSome_iff, Node.keys, List.mem_map]
  exact exists_congr fun p => and_congr_right fun _ => by rw [beq_iff_eq, eq_comm]

/-- A suggestion in place of a key that is not there is another key, and it is there. -/
theorem suggest_ne_and_isSome [Backend] (hchunk : node.child? chunk = none) (h : suggest node chunk = some key) :
    key ≠ chunk ∧ (node.child? key).isSome := by
  have hkey : (node.child? key).isSome := isSome_child?_iff.2 (mem_of_bestKey h)
  refine ⟨?_, hkey⟩
  rintro rfl
  rw [hchunk] at hkey
  cases hkey

/-! ### Following keys -/

theorem Node.walk?_append (node : Node) (path rest : List Text) :
    node.walk? (path ++ rest) = (node.walk? path).bind (walk? · rest) := by
  induction path generalizing node with
  | nil => rfl
  | cons key path ih =>
    rw [List.cons_append, walk?_cons, walk?_cons]
    cases node.child? key with
    | none => rfl
    | some next => exact ih next

/-- Either all keys are there, or the failure names the first one that is not. -/
theorem follow_cases [Backend] (pattern : Text) (node : Node) (keys : List Text) :
    (∃ reached, follow pattern node keys = .ok reached ∧ node.walk? keys = some reached) ∨
      ∃ before chunk rest reached, keys = before ++ chunk :: rest ∧ node.walk? before = some reached ∧
        reached.child? chunk = none ∧ follow pattern node keys = .error ⟨pattern, chunk, suggest reached chunk⟩ := by
  induction keys generalizing node with
  | nil => exact .inl ⟨node, rfl, rfl⟩
  | cons key keys ih =>
    rw [follow, Node.walk?_cons]
    cases hnext : node.child? key with
    | none => exact .inr ⟨[], key, keys, node, rfl, rfl, hnext, rfl⟩
    | some next =>
      rcases ih next with ⟨reached, hok, hwalk⟩ | ⟨before, chunk, rest, reached, rfl, hwalk, hnone, herror⟩
      · exact .inl ⟨reached, hok, hwalk⟩
      · refine .inr ⟨key :: before, chunk, rest, reached, rfl, ?_, hnone, herror⟩
        rw [Node.walk?_cons, hnext]
        exact hwalk

/-! ### Failures in the index of a file -/

/-- The path is a segment of the chain of a declaration. -/
def IsSegment (tree : DeclarationTree) (path : List Text) : Prop := ∃ e ∈ tree.chains, path <:+: e.1

variable {tree : DeclarationTree} {path : List Text}

theorem isSome_walk?_build_iff : ((build tree).root.walk? path).isSome ↔ path = [] ∨ IsSegment tree path := by
  by_cases hpath : path = []
  · subst hpath
    exact iff_of_true rfl (.inl rfl)
  · rw [isSome_walk?_build tree hpath, or_iff_right hpath]
    rfl

/-- Looking up a selector in the index of a file finds something exactly if the selector has no keys or they are a
segment of a chain. Otherwise the failure holds the selector and its first key with which the keys up to there are no
such segment, and the suggestion, if there is one, is another key with which they are. -/
theorem find_build [Backend] (tree : DeclarationTree) (pattern : Text) :
    ((∃ node, (build tree).find pattern = .ok node) ↔
        Selector.chunks pattern = [] ∨ IsSegment tree (Selector.chunks pattern)) ∧
      ∀ failure, (build tree).find pattern = .error failure →
        failure.pattern = pattern ∧
        ∃ before rest, Selector.chunks pattern = before ++ failure.chunk :: rest ∧
          ¬ IsSegment tree (before ++ [failure.chunk]) ∧
          (∀ path ≠ [], path <+: before → IsSegment tree path) ∧
          ∀ key, failure.suggestion = some key → key ≠ failure.chunk ∧ IsSegment tree (before ++ [key]) := by
  rw [← isSome_walk?_build_iff, find]
  rcases follow_cases pattern (build tree).root (Selector.chunks pattern) with
    ⟨reached, hok, hwalk⟩ | ⟨before, chunk, rest, reached, hkeys, hwalk, hnone, herror⟩
  · rw [hok, hwalk]
    exact ⟨iff_of_true ⟨reached, rfl⟩ rfl, fun _ h => nomatch h⟩
  · have hstep : ∀ key, (build tree).root.walk? (before ++ [key]) = reached.child? key := by
      intro key
      rw [Node.walk?_append, hwalk, Option.bind_some, Node.walk?_cons]
      exact Option.bind_fun_some _
    have hsegment : ∀ key, IsSegment tree (before ++ [key]) ↔ (reached.child? key).isSome := by
      intro key
      rw [← hstep, isSome_walk?_build_iff, or_iff_right (by simp)]
    have hfail : (build tree).root.walk? (Selector.chunks pattern) = none := by
      rw [hkeys, Node.walk?_append, hwalk, Option.bind_some, Node.walk?_cons, hnone]
      rfl
    rw [herror, hfail]
    refine ⟨iff_of_false (fun ⟨_, h⟩ => nomatch h) (by simp), ?_⟩
    rintro failure ⟨⟩
    refine ⟨rfl, before, rest, hkeys, by rw [hsegment, hnone]; simp, ?_, ?_⟩
    · rintro path hpath ⟨more, rfl⟩
      rw [Node.walk?_append] at hwalk
      obtain ⟨next, hnext, -⟩ := Option.bind_eq_some_iff.1 hwalk
      exact (isSome_walk?_build_iff.1 (by rw [hnext]; rfl)).resolve_left hpath
    · intro key hkey
      rw [hsegment]
      exact suggest_ne_and_isSome hnone hkey

/-- The class between the namespace and its methods is left out. -/
theorem find_build_overloads :
    ∃ failure, (build overloads).find "B.R(i)".toList = .error failure ∧ failure.chunk = ['R'] ∧
      ∃ before rest, Selector.chunks "B.R(i)".toList = before ++ ['R'] :: rest ∧
        ¬ IsSegment overloads (before ++ [['R']]) ∧ ∀ path ≠ [], path <+: before → IsSegment overloads path := by
  refine ⟨_, rfl, rfl, ?_⟩
  obtain ⟨-, before, rest, hkeys, hnot, hbefore, -⟩ := (find_build overloads "B.R(i)".toList).2 _ rfl
  exact ⟨before, rest, hkeys, hnot, hbefore⟩

end Index

end Excerpt
