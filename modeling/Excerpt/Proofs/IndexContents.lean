import Excerpt.Index.Build
import Excerpt.Proofs.Chains
import Excerpt.Proofs.NodeUnion

/-! # What the index of a file holds

A path of keys leads somewhere in the index exactly if it is a segment of the chain of some declaration, and it
ends at a node with the spans of the declarations that it addresses (`Addresses`).

`Placed P H E (node, root)` carries the two accumulators of the construction together: `node` holds the chains of
`E` from their starts, and `root`, which held `P` and `H` before, holds every segment of them as well. Putting a
key before all chains of `E` keeps it (`Placed.wrap`), and so does adding the chains of a sibling
(`Placed.append`). -/

namespace Excerpt

namespace Index

/-- The path addresses the declaration with the given chain: it is the end of the chain or, for a method, of the
chain without the parameters. A declaration without keys is not addressed. -/
def Addresses (c : List Text) (e : List Text × Declaration) : Prop :=
  e.2.keys ≠ [] ∧ (c <:+ e.1 ∨ e.2.kind = .method ∧ c <:+ e.1.dropLast)

/-- What stands in the relation `R` to one of the entries. -/
def gather {α : Type} (R : α → List Text × Declaration → Prop) (E : List (List Text × Declaration)) : Set α :=
  {x | ∃ e ∈ E, R x e}

/-- The segments of the chains. -/
def segments : List (List Text × Declaration) → Set (List Text) :=
  gather fun c e => c ≠ [] ∧ c <:+: e.1

/-- The paths with the spans that they address. -/
def addressed : List (List Text × Declaration) → Set (List Text × Span) :=
  gather fun p e => p.1 ≠ [] ∧ Addresses p.1 e ∧ p.2 = e.2.span

/-- The segments with which the chains start. -/
def stems (E : List (List Text × Declaration)) : Set (List Text) := insert [] (gather (fun c e => c <+: e.1) E)

/-- The paths that address a span from the start of its chain. -/
def ends : List (List Text × Declaration) → Set (List Text × Span) :=
  gather fun p e => e.2.keys ≠ [] ∧ (p.1 = e.1 ∨ e.2.kind = .method ∧ p.1 = e.1.dropLast) ∧ p.2 = e.2.span

/-- Puts keys before every chain. -/
def shift (keys : List Text) (E : List (List Text × Declaration)) : List (List Text × Declaration) :=
  E.map fun e => (keys ++ e.1, e.2)

section
variable {E F : List (List Text × Declaration)} {d : Declaration} {key : Text} {keys : List Text}

theorem gather_append {α : Type} (R : α → List Text × Declaration → Prop) :
    gather R (E ++ F) = gather R E ∪ gather R F := by
  ext x
  constructor
  · rintro ⟨e, he, hx⟩
    rcases List.mem_append.1 he with he | he
    exacts [.inl ⟨e, he, hx⟩, .inr ⟨e, he, hx⟩]
  · rintro (⟨e, he, hx⟩ | ⟨e, he, hx⟩)
    exacts [⟨e, List.mem_append_left _ he, hx⟩, ⟨e, List.mem_append_right _ he, hx⟩]

theorem gather_cons_of_forall_not {α : Type} {R : α → List Text × Declaration → Prop}
    {e : List Text × Declaration} (h : ∀ x, ¬ R x e) : gather R (e :: E) = gather R E := by
  ext x
  constructor
  · rintro ⟨e', he', hx⟩
    rcases List.mem_cons.1 he' with rfl | he'
    · exact absurd hx (h x)
    · exact ⟨e', he', hx⟩
  · rintro ⟨e', he', hx⟩
    exact ⟨e', List.mem_cons_of_mem _ he', hx⟩

theorem shift_nil (E : List (List Text × Declaration)) : shift [] E = E := by simp [shift]

theorem shift_shift (k l : List Text) (E : List (List Text × Declaration)) :
    shift k (shift l E) = shift (k ++ l) E := by simp [shift]

theorem gather_shift {α : Type} (R : α → List Text × Declaration → Prop) :
    gather R (shift keys E) = gather (fun x e => R x (keys ++ e.1, e.2)) E := by
  ext x
  constructor
  · rintro ⟨e, he, hx⟩
    obtain ⟨e', he', rfl⟩ := List.mem_map.1 he
    exact ⟨e', he', hx⟩
  · rintro ⟨e, he, hx⟩
    exact ⟨_, List.mem_map_of_mem he, hx⟩

theorem shift_ne_nil (h : E ≠ []) : shift keys E ≠ [] := fun hs => h (List.map_eq_nil_iff.1 hs)

theorem stems_append : stems (E ++ F) = stems E ∪ stems F := by
  simp only [stems, gather_append, Set.insert_union, Set.union_insert, Set.insert_idem]

theorem chains_eq_shift (d : Declaration) :
    d.chains = shift d.keys (([], d) :: Declaration.chainsAll d.children) := by
  rw [Declaration.chains_eq, shift, List.map_cons, List.append_nil]

theorem segments_nil_cons : segments (([], d) :: E) = segments E :=
  gather_cons_of_forall_not fun _ h => h.1 (List.infix_nil.1 h.2)

theorem addressed_nil_cons : addressed (([], d) :: E) = addressed E :=
  gather_cons_of_forall_not fun _ ⟨hne, ⟨_, h⟩, _⟩ =>
    hne (h.elim List.suffix_nil.1 fun h => List.suffix_nil.1 h.2)

theorem stems_nil_cons : stems (([], d) :: E) = stems E := by
  ext c
  constructor
  · rintro (rfl | ⟨e, he, hc⟩)
    · exact .inl rfl
    · rcases List.mem_cons.1 he with rfl | he
      · exact .inl (List.prefix_nil.1 hc)
      · exact .inr ⟨e, he, hc⟩
  · rintro (rfl | ⟨e, he, hc⟩)
    exacts [.inl rfl, .inr ⟨e, List.mem_cons_of_mem _ he, hc⟩]

theorem ends_nil_cons_of_keys (h : d.keys ≠ []) : ends (([], d) :: E) = insert ([], d.span) (ends E) := by
  ext ⟨c, s⟩
  constructor
  · rintro ⟨e, he, hk, hc, hs⟩
    rcases List.mem_cons.1 he with rfl | he
    · exact .inl (Prod.ext (hc.elim id (·.2)) hs)
    · exact .inr ⟨e, he, hk, hc, hs⟩
  · rintro (h' | ⟨e, he, hk, hc, hs⟩)
    · cases h'; exact ⟨_, List.mem_cons_self .., h, .inl rfl, rfl⟩
    · exact ⟨e, List.mem_cons_of_mem _ he, hk, hc, hs⟩

theorem ends_nil_cons_of_no_keys (h : d.keys = []) : ends (([], d) :: E) = ends E :=
  gather_cons_of_forall_not fun _ hp => hp.1 h

theorem segments_shift (hE : E ≠ []) : segments (shift [key] E) = segments E ∪ (key :: ·) '' stems E := by
  rw [segments, gather_shift]
  ext c
  constructor
  · rintro ⟨e, he, hne, hc⟩
    rcases List.infix_cons_iff.1 hc with hc | hc
    · rcases List.prefix_cons_iff.1 hc with rfl | ⟨t, rfl, ht⟩
      · exact absurd rfl hne
      · exact .inr ⟨t, .inr ⟨e, he, ht⟩, rfl⟩
    · exact .inl ⟨e, he, hne, hc⟩
  · rintro (⟨e, he, hne, hc⟩ | ⟨t, rfl | ⟨e, he, ht⟩, rfl⟩)
    · exact ⟨e, he, hne, List.infix_cons hc⟩
    · obtain ⟨e, he⟩ := List.exists_mem_of_ne_nil E hE
      exact ⟨e, he, List.cons_ne_nil _ _, (List.prefix_append [key] e.1).isInfix⟩
    · exact ⟨e, he, List.cons_ne_nil _ _, ((List.prefix_cons_inj key).2 ht).isInfix⟩

theorem stems_shift (hE : E ≠ []) : stems (shift [key] E) = insert [] ((key :: ·) '' stems E) := by
  rw [stems, gather_shift]
  ext c
  constructor
  · rintro (rfl | ⟨e, he, hc⟩)
    · exact .inl rfl
    · rcases List.prefix_cons_iff.1 hc with rfl | ⟨t, rfl, ht⟩
      exacts [.inl rfl, .inr ⟨t, .inr ⟨e, he, ht⟩, rfl⟩]
  · rintro (rfl | ⟨t, rfl | ⟨e, he, ht⟩, rfl⟩)
    · exact .inl rfl
    · obtain ⟨e, he⟩ := List.exists_mem_of_ne_nil E hE
      exact .inr ⟨e, he, List.prefix_append [key] e.1⟩
    · exact .inr ⟨e, he, (List.prefix_cons_inj key).2 ht⟩

theorem dropLast_cons_append {l : List Text} (h : l ≠ []) : ([key] ++ l).dropLast = key :: l.dropLast := by
  cases l with
  | nil => exact absurd rfl h
  | cons k l => rfl

theorem addressed_shift : addressed (shift [key] E) = addressed E ∪ Node.under key (ends E) := by
  rw [addressed, gather_shift]
  ext ⟨c, s⟩
  constructor
  · rintro ⟨e, he, hne, ⟨hk, hc | ⟨hm, hc⟩⟩, rfl⟩
    · rcases List.suffix_cons_iff.1 hc with rfl | hc
      · exact .inr ⟨e.1, rfl, e, he, hk, .inl rfl, rfl⟩
      · exact .inl ⟨e, he, hne, ⟨hk, .inl hc⟩, rfl⟩
    · by_cases hl : e.1 = []
      · rw [hl] at hc; exact absurd (List.suffix_nil.1 hc) hne
      · rw [dropLast_cons_append hl] at hc
        rcases List.suffix_cons_iff.1 hc with rfl | hc
        · exact .inr ⟨e.1.dropLast, rfl, e, he, hk, .inr ⟨hm, rfl⟩, rfl⟩
        · exact .inl ⟨e, he, hne, ⟨hk, .inr ⟨hm, hc⟩⟩, rfl⟩
  · rintro (⟨e, he, hne, ⟨hk, hc | ⟨hm, hc⟩⟩, rfl⟩ | ⟨t, rfl, e, he, hk, rfl | ⟨hm, rfl⟩, rfl⟩)
    · exact ⟨e, he, hne, ⟨hk, .inl (hc.trans (List.suffix_append ..))⟩, rfl⟩
    · have hl : e.1 ≠ [] := fun hl => by rw [hl] at hc; exact hne (List.suffix_nil.1 hc)
      refine ⟨e, he, hne, ⟨hk, .inr ⟨hm, ?_⟩⟩, rfl⟩
      rw [dropLast_cons_append hl]; exact hc.trans (List.suffix_cons ..)
    · exact ⟨e, he, List.cons_ne_nil _ _, ⟨hk, .inl List.suffix_rfl⟩, rfl⟩
    · by_cases hl : e.1 = []
      · refine ⟨e, he, List.cons_ne_nil _ _, ⟨hk, .inl ?_⟩, rfl⟩
        rw [hl]; exact List.suffix_rfl
      · refine ⟨e, he, List.cons_ne_nil _ _, ⟨hk, .inr ⟨hm, ?_⟩⟩, rfl⟩
        rw [dropLast_cons_append hl]

/-- The methods whose parameters are their whole chain. -/
def bare : List (List Text × Declaration) → Set (List Text × Span) :=
  gather fun p e => p.1 = [] ∧ e.1 = [] ∧ e.2.keys ≠ [] ∧ e.2.kind = .method ∧ p.2 = e.2.span

theorem ends_shift : ends (shift [key] E) = bare E ∪ Node.under key (ends E) := by
  rw [ends, gather_shift]
  ext ⟨c, s⟩
  constructor
  · rintro ⟨e, he, hk, rfl | ⟨hm, rfl⟩, rfl⟩
    · exact .inr ⟨e.1, rfl, e, he, hk, .inl rfl, rfl⟩
    · by_cases hl : e.1 = []
      · exact .inl ⟨e, he, by rw [hl]; rfl, hl, hk, hm, rfl⟩
      · exact .inr ⟨e.1.dropLast, dropLast_cons_append hl, e, he, hk, .inr ⟨hm, rfl⟩, rfl⟩
  · rintro (⟨e, he, rfl, hl, hk, hm, rfl⟩ | ⟨t, rfl, e, he, hk, rfl | ⟨hm, rfl⟩, rfl⟩)
    · exact ⟨e, he, hk, .inr ⟨hm, by rw [hl]; rfl⟩, rfl⟩
    · exact ⟨e, he, hk, .inl rfl, rfl⟩
    · by_cases hl : e.1 = []
      · exact ⟨e, he, hk, .inl (by rw [hl]; rfl), rfl⟩
      · exact ⟨e, he, hk, .inr ⟨hm, (dropLast_cons_append hl).symm⟩, rfl⟩

theorem bare_shift : bare (shift [key] E) = ∅ := by
  rw [bare, gather_shift]
  exact Set.eq_empty_of_forall_notMem fun _ ⟨e, _, _, h, _⟩ => List.cons_ne_nil _ _ h

theorem bare_chainsAll (ds : List Declaration) : bare (Declaration.chainsAll ds) = ∅ :=
  Set.eq_empty_of_forall_notMem fun _ ⟨e, he, _, hl, hk, _⟩ =>
    hk (List.suffix_nil.1 (hl ▸ Declaration.keys_suffix_of_mem_chainsAll ds e he))

theorem bare_nil_cons_of_ne_method (h : d.kind ≠ .method) : bare (([], d) :: E) = bare E :=
  gather_cons_of_forall_not fun _ hp => h hp.2.2.2.1

theorem bare_nil_cons_of_method (h : d.kind = .method) : bare (([], d) :: E) = insert ([], d.span) (bare E) := by
  ext ⟨c, s⟩
  constructor
  · rintro ⟨e, he, hc, hl, hk, hm, hs⟩
    rcases List.mem_cons.1 he with rfl | he
    · exact .inl (Prod.ext hc hs)
    · exact .inr ⟨e, he, hc, hl, hk, hm, hs⟩
  · rintro (h' | ⟨e, he, hp⟩)
    · cases h'
      refine ⟨_, List.mem_cons_self .., rfl, rfl, fun hk => ?_, h, rfl⟩
      have := Declaration.length_keys_of_method h
      rw [hk] at this; cases this
    · exact ⟨e, List.mem_cons_of_mem _ he, hp⟩

end

/-- The node holds the chains of `E` from their starts, and the root, which held `P` and `H`, every segment. -/
structure Placed (P : Set (List Text)) (H : Set (List Text × Span)) (E : List (List Text × Declaration))
    (p : Node × Node) : Prop where
  node : p.1.Models (stems E) (ends E)
  root : p.2.Models (P ∪ segments E) (H ∪ addressed E)

namespace Placed
variable {P : Set (List Text)} {H : Set (List Text × Span)} {E F : List (List Text × Declaration)}
  {d : Declaration} {node root : Node} {p : Node × Node}

theorem nil (h : root.Models P H) : Placed P H [] (Node.empty, root) where
  node := Node.Models.empty.congr (by simp [stems, gather]) (by simp [ends, gather])
  root := h.congr (by simp [segments, gather]) (by simp [addressed, gather])

/-- One more key before the chains, for a node that has become the child of `wrapped` under that key. -/
theorem step (h : Placed P H E (node, root)) (hE : E ≠ []) (key : Text) {wrapped : Node}
    (hw : wrapped.Models (insert [] ((key :: ·) '' stems E)) (bare E ∪ Node.under key (ends E))) :
    Placed P H (shift [key] E) (wrapped, root.mergeAt key node) where
  node := hw.congr (stems_shift hE).symm ends_shift.symm
  root := (h.root.mergeAt h.node key).congr (by rw [segments_shift hE, Set.union_assoc])
    (by rw [addressed_shift, Set.union_assoc])

theorem wrap_of_bare (h : Placed P H E (node, root)) (hE : E ≠ []) (hb : bare E = ∅) (outward : List Text)
    (hm : d.kind = .method → outward.length ≤ 1) :
    Placed P H (shift outward.reverse E) (Index.wrap d node root outward) := by
  induction outward generalizing E node root with
  | nil => rwa [List.reverse_nil, shift_nil]
  | cons key outer ih =>
    have hif : ¬ (d.kind = .method ∧ outer ≠ []) := fun ⟨hk, ho⟩ =>
      ho (List.eq_nil_of_length_eq_zero (by have := hm hk; simp only [List.length_cons] at this; omega))
    have hs : Placed P H (shift [key] E) (Node.single key node, root.mergeAt key node) :=
      h.step hE key (by rw [hb, Set.empty_union]; exact h.node.single key)
    rw [Index.wrap, if_neg hif, List.reverse_cons, ← shift_shift]
    exact ih hs (shift_ne_nil hE) bare_shift fun hk => by have := hm hk; simp only [List.length_cons] at this; omega

theorem nil_cons_of_keys (h : Placed P H E (node, root)) (hk : d.keys ≠ []) :
    Placed P H (([], d) :: E) (node.addSpan d.span, root) where
  node := (h.node.addSpan d.span).congr stems_nil_cons.symm (ends_nil_cons_of_keys hk).symm
  root := h.root.congr (by rw [segments_nil_cons]) (by rw [addressed_nil_cons])

theorem nil_cons_of_no_keys (h : Placed P H E (node, root)) (hk : d.keys = []) :
    Placed P H (([], d) :: E) (node, root) where
  node := h.node.congr stems_nil_cons.symm (ends_nil_cons_of_no_keys hk).symm
  root := h.root.congr (by rw [segments_nil_cons]) (by rw [addressed_nil_cons])

theorem wrap (h : Placed P H (Declaration.chainsAll d.children) (node, root)) (hk : d.keys ≠ []) :
    Placed P H d.chains (Index.wrap d (node.addSpan d.span) root d.keys.reverse) := by
  have hn := h.nil_cons_of_keys hk
  have hne : ([], d) :: Declaration.chainsAll d.children ≠ [] := List.cons_ne_nil _ _
  rw [chains_eq_shift]
  by_cases hm : d.kind = .method
  · -- the name of a method is the one key outside another, so the first step alone adds a span
    obtain ⟨name, parameters, hkeys⟩ := List.length_eq_two.1 (Declaration.length_keys_of_method hm)
    have hb : bare (([], d) :: Declaration.chainsAll d.children) = {([], d.span)} := by
      rw [bare_nil_cons_of_method hm, bare_chainsAll, insert_empty_eq]
    have hs := hn.step hne parameters
      (((hn.node.single parameters).addSpan d.span).congr rfl (by rw [hb, Set.singleton_union]))
    rw [hkeys, show [name, parameters].reverse = [parameters, name] from rfl, Index.wrap,
      if_pos ⟨hm, List.cons_ne_nil _ _⟩, show [name, parameters] = [name].reverse ++ [parameters] from rfl,
      ← shift_shift]
    exact hs.wrap_of_bare (shift_ne_nil hne) bare_shift [name] fun _ => le_rfl
  · have hb : bare (([], d) :: Declaration.chainsAll d.children) = ∅ := by
      rw [bare_nil_cons_of_ne_method hm, bare_chainsAll]
    have hw := hn.wrap_of_bare hne hb d.keys.reverse fun h => absurd h hm
    rwa [List.reverse_reverse] at hw

theorem append (h : Placed P H E (node, root)) (hp : Placed (P ∪ segments E) (H ∪ addressed E) F p) :
    Placed P H (E ++ F) (node.merge p.1, p.2) where
  node := (h.node.merge hp.node).congr stems_append.symm (gather_append _).symm
  root := hp.root.congr (by rw [Set.union_assoc, segments, gather_append])
    (by rw [Set.union_assoc, addressed, gather_append])

end Placed

section
variable {P : Set (List Text)} {H : Set (List Text × Span)} {E : List (List Text × Declaration)}
  {d : Declaration} {members root : Node}

theorem visit_eq (root : Node) (d : Declaration) :
    visit root d = if d.keys.isEmpty then visitAll Node.empty root d.children
      else wrap d ((visitAll Node.empty root d.children).1.addSpan d.span) (visitAll Node.empty root d.children).2
        d.keys.reverse := by
  cases d; rw [visit]

mutual
theorem placed_visit : ∀ (d : Declaration) (root : Node) (P : Set (List Text)) (H : Set (List Text × Span)),
    root.Models P H → Placed P H d.chains (visit root d)
  | ⟨kind, name, typeParameters, parameterTypes, span, children⟩, root, P, H, h => by
    have hc := placed_visitAll children Node.empty root P H [] (Placed.nil h)
    rw [visit_eq]
    split
    next hk =>
      rw [chains_eq_shift, List.isEmpty_iff.1 hk, shift_nil]
      exact hc.nil_cons_of_no_keys (List.isEmpty_iff.1 hk)
    next hk => exact hc.wrap fun h => hk (List.isEmpty_iff.2 h)

theorem placed_visitAll : ∀ (ds : List Declaration) (members root : Node) (P : Set (List Text))
    (H : Set (List Text × Span)) (E : List (List Text × Declaration)),
    Placed P H E (members, root) → Placed P H (E ++ Declaration.chainsAll ds) (visitAll members root ds)
  | [], members, root, P, H, E, h => by rwa [Declaration.chainsAll_nil, List.append_nil]
  | d :: ds, members, root, P, H, E, h => by
    have hd := placed_visit d root (P ∪ segments E) (H ∪ addressed E) h.root
    rw [visitAll, Declaration.chainsAll_cons, ← List.append_assoc]
    exact placed_visitAll ds _ _ P H (E ++ d.chains) (h.append hd)
end

theorem stems_subset (E : List (List Text × Declaration)) : stems E ⊆ insert [] (segments E) := by
  rintro c (rfl | ⟨e, he, hc⟩)
  · exact .inl rfl
  · by_cases hne : c = []
    exacts [.inl hne, .inr ⟨e, he, hne, hc.isInfix⟩]

theorem ends_subset (hE : ∀ e ∈ E, e.2.keys <:+ e.1) : ends E ⊆ addressed E := by
  rintro ⟨c, s⟩ ⟨e, he, hk, rfl | ⟨hm, rfl⟩, rfl⟩
  · exact ⟨e, he, fun hne => hk (List.suffix_nil.1 (hne ▸ hE e he)), ⟨hk, .inl List.suffix_rfl⟩, rfl⟩
  · refine ⟨e, he, fun hne => ?_, ⟨hk, .inr ⟨hm, List.suffix_rfl⟩⟩, rfl⟩
    have hlen := (hE e he).length_le
    have hdrop : e.1.dropLast.length = 0 := List.length_eq_zero_iff.2 hne
    rw [Declaration.length_keys_of_method hm] at hlen
    rw [List.length_dropLast] at hdrop
    omega

theorem models_addTopLevel (ds : List Declaration) (h : root.Models P H) :
    (addTopLevel root ds).Models (P ∪ segments (Declaration.chainsAll ds))
      (H ∪ addressed (Declaration.chainsAll ds)) := by
  induction ds generalizing root P H with
  | nil => exact h.congr (by simp [segments, gather]) (by simp [addressed, gather])
  | cons d ds ih =>
    have hd := placed_visit d root P H h
    have hroot : ((visit root d).2.merge (visit root d).1).Models (P ∪ segments d.chains)
        (H ∪ addressed d.chains) := by
      refine (hd.root.merge hd.node).congr (Set.union_eq_left.2 fun c hc => ?_)
        (Set.union_eq_left.2 fun p hp => ?_)
      · rcases stems_subset _ hc with rfl | hc
        exacts [.inl h.nil_mem, .inr hc]
      · exact .inr (ends_subset (Declaration.keys_suffix_of_mem_chains d) hp)
    refine (ih hroot).congr ?_ ?_
    · rw [Declaration.chainsAll_cons, Set.union_assoc, segments, gather_append]
    · rw [Declaration.chainsAll_cons, Set.union_assoc, addressed, gather_append]

/-- The index holds the file under the empty path, and the segments of the chains with what they address. -/
theorem models_build (tree : DeclarationTree) :
    (build tree).root.Models (insert [] (segments tree.chains)) (insert ([], tree.span) (addressed tree.chains)) :=
  (models_addTopLevel tree.declarations (Node.Models.empty.addSpan tree.span)).congr rfl
    (by rw [Set.insert_union, Set.empty_union]; rfl)

theorem isSome_walk?_build (tree : DeclarationTree) {c : List Text} (hc : c ≠ []) :
    ((build tree).root.walk? c).isSome ↔ ∃ e ∈ tree.chains, c <:+: e.1 := by
  rw [(models_build tree).reach]
  constructor
  · rintro (rfl | ⟨e, he, -, h⟩)
    · exact absurd rfl hc
    · exact ⟨e, he, h⟩
  · exact fun ⟨e, he, h⟩ => .inr ⟨e, he, hc, h⟩

theorem exists_addresses_of_mem_spans (tree : DeclarationTree) {c : List Text} {node : Node} {s : Span} (hc : c ≠ [])
    (h : (build tree).root.walk? c = some node) (hs : s ∈ node.spans) :
    ∃ e ∈ tree.chains, Addresses c e ∧ e.2.span = s := by
  rcases (models_build tree).sound c node h s hs with h | ⟨e, he, -, ha, rfl⟩
  · exact absurd (Prod.ext_iff.1 h).1 hc
  · exact ⟨e, he, ha, rfl⟩

theorem exists_mem_spans_of_addresses (tree : DeclarationTree) {c : List Text} {e : List Text × Declaration}
    (hc : c ≠ []) (he : e ∈ tree.chains) (ha : Addresses c e) :
    ∃ node, (build tree).root.walk? c = some node ∧ ∃ s ∈ node.spans, s.start = e.2.span.start := by
  obtain ⟨node, hn, hs⟩ := (models_build tree).complete c e.2.span (.inr ⟨e, he, hc, ha, rfl⟩)
  exact ⟨node, hn, List.mem_map.1 hs⟩

theorem spans_root_build (tree : DeclarationTree) : (build tree).root.spans = [tree.span] := by
  have h := models_build tree
  have hall : ∀ s ∈ (build tree).root.spans, s = tree.span := fun s hs => by
    rcases h.sound [] _ rfl s hs with h | ⟨_, _, hne, _⟩
    · exact (Prod.ext_iff.1 h).2
    · exact absurd rfl hne
  obtain ⟨_, hn, hs⟩ := h.complete [] tree.span (.inl rfl)
  cases hn
  have hasc := h.ordered.sorted.spans
  match hl : (build tree).root.spans with
  | [] => rw [hl] at hs; cases hs
  | [s] => rw [hall s (by rw [hl]; exact List.mem_cons_self ..)]
  | s :: t :: rest =>
    have hst : s.start < t.start := by
      rw [hl] at hasc; exact (List.pairwise_cons.1 hasc).1 _ (List.mem_cons_self ..)
    rw [hall s (by rw [hl]; simp), hall t (by rw [hl]; simp)] at hst
    exact absurd hst (Nat.lt_irrefl _)

/-- The root of the index carries the span of the file alone. A path of keys leads somewhere exactly if it is a
segment of a chain; the spans there start exactly where the declarations start that the path addresses, and each of
them is the span of such a declaration. -/
theorem walk?_build_exact (tree : DeclarationTree) :
    (build tree).root.spans = [tree.span] ∧
    ∀ c ≠ [],
      (((build tree).root.walk? c).isSome ↔ ∃ e ∈ tree.chains, c <:+: e.1) ∧
      ∀ node, (build tree).root.walk? c = some node →
        {n | ∃ s ∈ node.spans, s.start = n} = {n | ∃ e ∈ tree.chains, Addresses c e ∧ e.2.span.start = n} ∧
        ∀ s ∈ node.spans, ∃ e ∈ tree.chains, Addresses c e ∧ e.2.span = s := by
  refine ⟨spans_root_build tree, fun c hc => ⟨isSome_walk?_build tree hc, fun node hn => ⟨?_, fun s hs => ?_⟩⟩⟩
  · ext n
    constructor
    · rintro ⟨s, hs, rfl⟩
      obtain ⟨e, he, ha, rfl⟩ := exists_addresses_of_mem_spans tree hc hn hs
      exact ⟨e, he, ha, rfl⟩
    · rintro ⟨e, he, ha, rfl⟩
      obtain ⟨node', hn', hs⟩ := exists_mem_spans_of_addresses tree hc he ha
      obtain rfl := Option.some.inj (hn.symm.trans hn')
      exact hs
  · exact exists_addresses_of_mem_spans tree hc hn hs

end

/-- A class in a dotted namespace, with two methods of one name. -/
def overloads : DeclarationTree :=
  .ofLength 99 [⟨.namespaceDecl, ['A', '.', 'B'], [], [], ⟨0, 90⟩, [⟨.classDecl, ['C'], [], [], ⟨10, 80⟩,
    [⟨.method, ['R'], [], [['i']], ⟨20, 30⟩, []⟩, ⟨.method, ['R'], [], [], ⟨40, 50⟩, []⟩]⟩]⟩]

theorem walk?_build_exact_overloads :
    ∃ node, (build overloads).root.walk? [['C'], ['R']] = some node ∧ node.spans = [⟨20, 30⟩, ⟨40, 50⟩] ∧
      {n | ∃ s ∈ node.spans, s.start = n} =
        {n | ∃ e ∈ overloads.chains, Addresses [['C'], ['R']] e ∧ e.2.span.start = n} :=
  ⟨_, rfl, rfl, (((walk?_build_exact overloads).2 [['C'], ['R']] (List.cons_ne_nil _ _)).2 _ rfl).1⟩

end Index

end Excerpt
