import Excerpt.Proofs.IndexContents

/-!
# The order of siblings

The index of a file does not depend on the order in which siblings stand. An ordered node is fixed by the spans that
its paths lead to (`Node.Ordered.ext`), so two nodes that model the same paths and spans are equal as soon as the start
of a span determines its end (`Node.Models.unique`). `Declaration.Shuffled` reorders siblings at any number of levels.
It reorders the chains with it, and with each chain stands the same declaration up to what is inside it.
-/

namespace Excerpt

theorem Table.ext {α : Type} {l l' : List (Text × α)} (h : (l.map Prod.fst).Pairwise (· < ·))
    (h' : (l'.map Prod.fst).Pairwise (· < ·)) (heq : ∀ k, l.lookup k = l'.lookup k) : l = l' := by
  induction l generalizing l' with
  | nil =>
    cases l' with
    | nil => rfl
    | cons p rest =>
      have hp := heq p.1
      rw [List.lookup_cons_self] at hp
      cases hp
  | cons p rest ih =>
    obtain ⟨k, a⟩ := p
    cases l' with
    | nil => simpa using heq k
    | cons p' rest' =>
      obtain ⟨k', a'⟩ := p'
      rw [List.map_cons, List.pairwise_cons] at h h'
      -- a head that comes before the other table has no counterpart in it
      have hk : k = k' := by
        rcases Std.lt_trichotomy k k' with hlt | heq' | hlt
        · have hnone : List.lookup k ((k', a') :: rest') = none := lookup_eq_none_of_lt fun j hj => by
            rcases List.mem_cons.1 hj with rfl | hj
            exacts [hlt, List.lt_trans hlt (h'.1 j hj)]
          rw [← heq k, List.lookup_cons_self] at hnone
          cases hnone
        · exact heq'
        · have hnone : List.lookup k' ((k, a) :: rest) = none := lookup_eq_none_of_lt fun j hj => by
            rcases List.mem_cons.1 hj with rfl | hj
            exacts [hlt, List.lt_trans hlt (h.1 j hj)]
          rw [heq k', List.lookup_cons_self] at hnone
          cases hnone
      subst hk
      have ha : a = a' := by simpa using heq k
      have hrest : rest = rest' := ih h.2 h'.2 fun j => by
        by_cases hj : j = k
        · rw [hj, lookup_eq_none_of_lt h.1, lookup_eq_none_of_lt h'.1]
        · simpa [List.lookup_cons, beq_false_of_ne hj] using heq j
      rw [ha, hrest]

namespace Index

theorem eq_of_mem_spans_iff {l l' : List Span} (h : (l.map Span.start).Pairwise (· < ·))
    (h' : (l'.map Span.start).Pairwise (· < ·)) (hmem : ∀ s, s ∈ l ↔ s ∈ l') : l = l' := by
  rw [List.pairwise_map] at h h'
  have hne : ∀ s t : Span, s.start < t.start → s ≠ t := fun s t hlt heq => Nat.lt_irrefl _ (heq ▸ hlt)
  have hperm : l.Perm l' := (List.perm_ext_iff_of_nodup (h.imp (hne _ _)) (h'.imp (hne _ _))).2 hmem
  exact hperm.eq_of_pairwise (fun s t _ _ hst hts => absurd hts (Nat.lt_asymm hst)) h h'

namespace Node
variable {a b m : Node} {k : Text}

theorem sizeOf_child_lt (h : a.child? k = some m) : sizeOf m < sizeOf a := by
  obtain ⟨spans, children⟩ := a
  obtain ⟨before, after, hc, -⟩ := List.lookup_eq_some_iff.1 h
  have hmem : (k, m) ∈ children := by
    rw [show children = before ++ (k, m) :: after from hc]
    simp
  have hlt := List.sizeOf_lt_of_mem hmem
  simp only [Prod.mk.sizeOf_spec] at hlt
  simp only [mk.sizeOf_spec]
  omega

/-- An ordered node is fixed by the spans that its paths lead to. -/
theorem Ordered.ext {a b : Node} (ha : a.Ordered) (hb : b.Ordered)
    (h : ∀ path, (a.walk? path).map spans = (b.walk? path).map spans) : a = b := by
  have hchild : ∀ k, a.child? k = b.child? k := by
    intro k
    have hk : ∀ path, ((a.child? k).bind (walk? · path)).map spans = ((b.child? k).bind (walk? · path)).map spans :=
      fun path => by simpa only [walk?_cons] using h (k :: path)
    cases hca : a.child? k with
    | none =>
      cases hcb : b.child? k with
      | none => rfl
      | some b' => simpa [hca, hcb] using hk []
    | some a' =>
      cases hcb : b.child? k with
      | none => simpa [hca, hcb] using hk []
      | some b' =>
        rw [hca, hcb] at hk
        have hlt := sizeOf_child_lt hca
        exact congrArg some (Ordered.ext (ha.child hca) (hb.child hcb) hk)
  have hspans : a.spans = b.spans := Option.some.inj (h [])
  have hchildren : a.children = b.children := Table.ext ha.sorted.keys hb.sorted.keys hchild
  obtain ⟨_, _⟩ := a
  obtain ⟨_, _⟩ := b
  exact congr (congrArg mk hspans) hchildren
termination_by sizeOf a

namespace Models
variable {P : Set (List Text)} {H : Set (List Text × Span)}

theorem mem_spans_of_mem_spans (ha : a.Models P H) (hb : b.Models P H)
    (hH : ∀ c s t, (c, s) ∈ H → (c, t) ∈ H → s.start = t.start → s = t) {c : List Text} {a' b' : Node}
    (hwa : a.walk? c = some a') (hwb : b.walk? c = some b') {s : Span} (hs : s ∈ a'.spans) : s ∈ b'.spans := by
  have hsH := ha.sound c a' hwa s hs
  obtain ⟨b'', hwb', hstart⟩ := hb.complete c s hsH
  obtain rfl := Option.some.inj (hwb.symm.trans hwb')
  obtain ⟨t, ht, hts⟩ := List.mem_map.1 hstart
  rw [hH c s t hsH (hb.sound c b' hwb t ht) hts.symm]
  exact ht

/-- Paths and spans fix a node if no two spans at one path share their start alone. -/
theorem unique (ha : a.Models P H) (hb : b.Models P H)
    (hH : ∀ c s t, (c, s) ∈ H → (c, t) ∈ H → s.start = t.start → s = t) : a = b := by
  refine ha.ordered.ext hb.ordered fun c => ?_
  have hsome : (a.walk? c).isSome ↔ (b.walk? c).isSome := by rw [ha.reach, hb.reach]
  cases hwa : a.walk? c with
  | none =>
    cases hwb : b.walk? c with
    | none => rfl
    | some b' => simp [hwa, hwb] at hsome
  | some a' =>
    cases hwb : b.walk? c with
    | none => simp [hwa, hwb] at hsome
    | some b' =>
      exact congrArg some (eq_of_mem_spans_iff (ha.ordered c a' hwa).spans (hb.ordered c b' hwb).spans fun s =>
        ⟨ha.mem_spans_of_mem_spans hb hH hwa hwb, hb.mem_spans_of_mem_spans ha hH hwb hwa⟩)

end Models

end Node

end Index

namespace Declaration

/-- The second list has the declarations of the first, with siblings in another order at any number of levels. -/
inductive Shuffled : List Declaration → List Declaration → Prop
  | perm {ds es : List Declaration} (h : ds.Perm es) : Shuffled ds es
  | cons {d : Declaration} {children ds es : List Declaration} (hc : Shuffled d.children children)
      (h : Shuffled ds es) : Shuffled (d :: ds) ({ d with children := children } :: es)
  | trans {ds es fs : List Declaration} (h : Shuffled ds es) (h' : Shuffled es fs) : Shuffled ds fs

/-- An entry without what is inside its declaration. -/
def head (e : List Text × Declaration) : List Text × Declaration := (e.1, { e.2 with children := [] })

variable {ds es : List Declaration}

theorem chainsAll_eq_flatMap (ds : List Declaration) : chainsAll ds = ds.flatMap chains := by
  induction ds with
  | nil => rfl
  | cons d ds ih => rw [chainsAll_cons, ih, List.flatMap_cons]

theorem map_head_shift (keys : List Text) (E : List (List Text × Declaration)) :
    (E.map fun e => (keys ++ e.1, e.2)).map head = (E.map head).map fun e => (keys ++ e.1, e.2) := by
  simp only [List.map_map]
  rfl

theorem Shuffled.chains_perm (h : Shuffled ds es) :
    ((chainsAll ds).map head).Perm ((chainsAll es).map head) := by
  induction h with
  | perm h =>
    rw [chainsAll_eq_flatMap, chainsAll_eq_flatMap]
    exact (h.flatMap_right chains).map head
  | @cons d children ds es _ _ ihc ih =>
    simp only [chainsAll_cons, List.map_append, chains_eq, List.map_cons, map_head_shift]
    exact ((ihc.map _).cons _).append ih
  | trans _ _ ih ih' => exact ih.trans ih'

end Declaration

namespace Index
variable {E F : List (List Text × Declaration)}

/-- What is gathered from the chains and from what their declarations are on their own does not depend on the order
of the entries. -/
theorem gather_eq_of_perm {α : Type} (R : α → List Text × Declaration → Prop)
    (hR : ∀ x e, R x (Declaration.head e) = R x e) (h : (E.map Declaration.head).Perm (F.map Declaration.head)) :
    gather R E = gather R F := by
  have hhead : ∀ E, gather R E = {x | ∃ e ∈ E.map Declaration.head, R x e} := fun E => by
    ext x
    simp only [gather, Set.mem_ofPred_eq, List.mem_map, exists_exists_and_eq_and, hR]
  rw [hhead E, hhead F]
  ext x
  simp only [Set.mem_ofPred_eq, h.mem_iff]

/-- The start of a declaration determines its span. -/
def StartsFixSpans (ds : List Declaration) : Prop :=
  ∀ d ∈ Declaration.preorderAll ds, ∀ e ∈ Declaration.preorderAll ds, d.span.start = e.span.start → d.span = e.span

theorem span_eq_of_addressed {ds : List Declaration} {span : Span} (h : StartsFixSpans ds) (c : List Text) (s t : Span)
    (hs : (c, s) ∈ insert ([], span) (addressed (Declaration.chainsAll ds)))
    (ht : (c, t) ∈ insert ([], span) (addressed (Declaration.chainsAll ds))) (hst : s.start = t.start) : s = t := by
  have hmem : ∀ e ∈ Declaration.chainsAll ds, e.2 ∈ Declaration.preorderAll ds := fun e he => by
    rw [← Declaration.map_snd_chainsAll]
    exact List.mem_map_of_mem he
  rcases hs with hs | ⟨e, he, hne, -, rfl⟩
  · rcases ht with ht | ⟨e, he, hne, -, rfl⟩
    · exact (Prod.ext_iff.1 hs).2.trans (Prod.ext_iff.1 ht).2.symm
    · exact absurd (Prod.ext_iff.1 hs).1 hne
  · rcases ht with ht | ⟨f, hf, -, -, rfl⟩
    · exact absurd (Prod.ext_iff.1 ht).1 hne
    · exact h e.2 (hmem e he) f.2 (hmem f hf) hst

/-- Where the start of a declaration determines its span, siblings can stand in any order: the index is the same, node
by node, with the same keys and the same spans in the same order. -/
theorem build_shuffled {span : Span} {ds es : List Declaration} (hspans : StartsFixSpans ds)
    (h : Declaration.Shuffled ds es) : build ⟨span, ds⟩ = build ⟨span, es⟩ := by
  have hperm := h.chains_perm
  have hseg : segments (Declaration.chainsAll es) = segments (Declaration.chainsAll ds) :=
    gather_eq_of_perm _ (fun _ _ => rfl) hperm.symm
  have haddr : addressed (Declaration.chainsAll es) = addressed (Declaration.chainsAll ds) :=
    gather_eq_of_perm _ (fun _ _ => rfl) hperm.symm
  have hds := models_build ⟨span, ds⟩
  have hes := (models_build ⟨span, es⟩).congr (congrArg _ hseg) (congrArg _ haddr)
  have hroot : (build ⟨span, ds⟩).root = (build ⟨span, es⟩).root :=
    hds.unique hes (span_eq_of_addressed hspans)
  exact congrArg Index.mk hroot

/-- Two classes of one name, the first with overloads of a method. -/
def twins : List Declaration :=
  [⟨.classDecl, ['C'], [], [], ⟨0, 40⟩, [⟨.method, ['R'], [], [['i']], ⟨10, 20⟩, []⟩,
    ⟨.method, ['R'], [], [], ⟨20, 30⟩, []⟩]⟩, ⟨.classDecl, ['C'], [], [], ⟨40, 50⟩, []⟩]

/-- The same classes with the second one first, and the methods of the other one reversed. -/
def twinsReversed : List Declaration :=
  [⟨.classDecl, ['C'], [], [], ⟨40, 50⟩, []⟩, ⟨.classDecl, ['C'], [], [], ⟨0, 40⟩,
    [⟨.method, ['R'], [], [], ⟨20, 30⟩, []⟩, ⟨.method, ['R'], [], [['i']], ⟨10, 20⟩, []⟩]⟩]

theorem build_shuffled_twins :
    StartsFixSpans twins ∧ Declaration.Shuffled twins twinsReversed ∧
      build ⟨⟨0, 50⟩, twins⟩ = build ⟨⟨0, 50⟩, twinsReversed⟩ := by
  have hspans : StartsFixSpans twins := by
    simp [StartsFixSpans, twins, Declaration.preorderAll, Declaration.preorder]
  have h : Declaration.Shuffled twins twinsReversed :=
    .trans (.cons (.perm (.swap _ _ _)) (.perm (.refl _))) (.perm (.swap _ _ _))
  exact ⟨hspans, h, build_shuffled hspans h⟩

end Index

end Excerpt
