import Excerpt.Selector
import Mathlib.Data.List.Infix

/-! # Chains of keys

The chain of a declaration is what leads to it from the top of the file: the keys of the declarations around it,
from the outside in, and then its own. `DeclarationTree.chains` lists every declaration with its chain. -/

namespace Excerpt

namespace Declaration

mutual
/-- The declaration and those inside it, each with the keys that lead to it from the container of the first. -/
def chains : Declaration → List (List Text × Declaration)
  | ⟨kind, name, typeParameters, parameterTypes, span, children⟩ =>
    let d : Declaration := ⟨kind, name, typeParameters, parameterTypes, span, children⟩
    (d.keys, d) :: (chainsAll children).map fun e => (d.keys ++ e.1, e.2)

/-- The declarations of a list of siblings with their chains. -/
def chainsAll : List Declaration → List (List Text × Declaration)
  | [] => []
  | d :: ds => chains d ++ chainsAll ds
end

variable {d : Declaration} {ds : List Declaration} {e : List Text × Declaration}

theorem chains_eq (d : Declaration) :
    d.chains = (d.keys, d) :: (chainsAll d.children).map fun e => (d.keys ++ e.1, e.2) := by
  cases d; rfl

@[simp] theorem chainsAll_nil : chainsAll [] = [] := rfl

@[simp] theorem chainsAll_cons (d : Declaration) (ds : List Declaration) :
    chainsAll (d :: ds) = d.chains ++ chainsAll ds := rfl

mutual
theorem map_snd_chains : ∀ d : Declaration, d.chains.map Prod.snd = d.preorder
  | ⟨kind, name, typeParameters, parameterTypes, span, children⟩ => by
    rw [chains_eq, preorder, ← map_snd_chainsAll children]; simp

theorem map_snd_chainsAll : ∀ ds : List Declaration, (chainsAll ds).map Prod.snd = preorderAll ds
  | [] => rfl
  | d :: ds => by rw [chainsAll_cons, List.map_append, map_snd_chains d, map_snd_chainsAll ds, preorderAll]
end

mutual
theorem keys_suffix_of_mem_chains : ∀ d : Declaration, ∀ e ∈ d.chains, e.2.keys <:+ e.1
  | ⟨kind, name, typeParameters, parameterTypes, span, children⟩, e, he => by
    rw [chains_eq, List.mem_cons, List.mem_map] at he
    rcases he with rfl | ⟨e, he, rfl⟩
    · exact List.suffix_rfl
    · exact (keys_suffix_of_mem_chainsAll children e he).trans (List.suffix_append ..)

/-- A chain ends in the keys of its declaration. -/
theorem keys_suffix_of_mem_chainsAll : ∀ ds : List Declaration, ∀ e ∈ chainsAll ds, e.2.keys <:+ e.1
  | d :: ds, e, he => by
    rcases List.mem_append.1 he with he | he
    · exact keys_suffix_of_mem_chains d e he
    · exact keys_suffix_of_mem_chainsAll ds e he
end

section
variable {P : Text → Prop}

mutual
theorem forall_mem_of_chains : ∀ d : Declaration, (∀ e ∈ d.chains, ∀ k ∈ e.2.keys, P k) →
    ∀ e ∈ d.chains, ∀ k ∈ e.1, P k
  | ⟨kind, name, typeParameters, parameterTypes, span, children⟩, h, e, he, k, hk => by
    have hkeys := h _ (List.mem_cons_self ..)
    have hc : ∀ e ∈ chainsAll children, ∀ k ∈ e.2.keys, P k := fun e he =>
      h (_ ++ e.1, e.2) (List.mem_cons_of_mem _ (List.mem_map.2 ⟨e, he, rfl⟩))
    rw [chains_eq, List.mem_cons, List.mem_map] at he
    rcases he with rfl | ⟨e, he, rfl⟩
    · exact hkeys k hk
    · rcases List.mem_append.1 hk with hk | hk
      · exact hkeys k hk
      · exact forall_mem_of_chainsAll children hc e he k hk

/-- What holds of the keys of every declaration holds of all keys of their chains. -/
theorem forall_mem_of_chainsAll : ∀ ds : List Declaration, (∀ e ∈ chainsAll ds, ∀ k ∈ e.2.keys, P k) →
    ∀ e ∈ chainsAll ds, ∀ k ∈ e.1, P k
  | d :: ds, h, e, he, k, hk => by
    rcases List.mem_append.1 he with he | he
    · exact forall_mem_of_chains d (fun e he => h e (List.mem_append_left _ he)) e he k hk
    · exact forall_mem_of_chainsAll ds (fun e he => h e (List.mem_append_right _ he)) e he k hk
end

end

theorem length_keys_of_method (h : d.kind = .method) : d.keys.length = 2 := by simp [keys, h]

end Declaration

/-- Every declaration of the tree with its chain, a declaration before its children. -/
def DeclarationTree.chains (tree : DeclarationTree) : List (List Text × Declaration) :=
  Declaration.chainsAll tree.declarations

end Excerpt
