import Excerpt.Proofs.PlainListing
import Excerpt.Proofs.SelectorText

/-!
# The walk with a stack and the listing of paths

`DeclarationTree.next?` draws one declaration from a stack. `Yields stack ds` says that drawing comes to an end and
gives `ds`; a stack yields what `visit` collects, and nothing else (`yields_iff`). A place is the list of positions that
lead to a declaration from the top of the file, and pre-order is the order of the places, where a place comes before
those that extend it (`pairwise_placedAll`). The listing of paths recurses over the same declarations; it leaves out
those without keys, provided that a declaration that takes a key from its name has a name.
-/

namespace Excerpt

/-- Whether declarations of the kind, other than namespaces, take a key from their name. -/
def DeclarationKind.isNamed : DeclarationKind → Bool
  | .namespaceDecl | .indexer | .constructor | .destructor => false
  | _ => true

namespace Declaration
variable {d : Declaration} {ds : List Declaration} {k : Text}

/-! ### Places -/

/-- The declaration that the positions lead to from `d`. -/
def below? (d : Declaration) : List Nat → Option Declaration
  | [] => some d
  | i :: place => d.children[i]?.bind fun child => below? child place

mutual
/-- The declaration and those inside it, each with the positions that lead to it. -/
def placed : Declaration → List (List Nat × Declaration)
  | ⟨kind, name, typeParameters, parameterTypes, span, children⟩ =>
    ([], ⟨kind, name, typeParameters, parameterTypes, span, children⟩) :: placedAll 0 children

/-- The declarations of a list of siblings with their places; the first one has the position `first`. -/
def placedAll (first : Nat) : List Declaration → List (List Nat × Declaration)
  | [] => []
  | d :: ds => (placed d).map (fun e => (first :: e.1, e.2)) ++ placedAll (first + 1) ds
end

mutual
theorem map_snd_placed : ∀ d : Declaration, d.placed.map Prod.snd = d.preorder
  | ⟨kind, name, typeParameters, parameterTypes, span, children⟩ => by
    rw [placed, List.map_cons, map_snd_placedAll children, preorder]

theorem map_snd_placedAll : ∀ (ds : List Declaration) (first : Nat), (placedAll first ds).map Prod.snd = preorderAll ds
  | [], first => rfl
  | d :: ds, first => by
    rw [placedAll, List.map_append, List.map_map, map_snd_placedAll ds, preorderAll, ← map_snd_placed d]
    rfl
end

mutual
theorem mem_placed : ∀ (d : Declaration) (place : List Nat) (e : Declaration),
    (place, e) ∈ d.placed ↔ d.below? place = some e
  | ⟨kind, name, typeParameters, parameterTypes, span, children⟩, place, e => by
    rw [placed, List.mem_cons, mem_placedAll children]
    cases place with
    | nil => simp [below?, eq_comm]
    | cons i place => simp [below?, Option.bind_eq_some_iff]

theorem mem_placedAll : ∀ (ds : List Declaration) (first : Nat) (place : List Nat) (e : Declaration),
    (place, e) ∈ placedAll first ds ↔
      ∃ i rest d, place = (first + i) :: rest ∧ ds[i]? = some d ∧ d.below? rest = some e
  | [], first, place, e => by simp [placedAll]
  | d :: ds, first, place, e => by
    rw [placedAll, List.mem_append, List.mem_map, mem_placedAll ds]
    constructor
    · rintro (⟨⟨rest, e⟩, he, heq⟩ | ⟨i, rest, d', rfl, hd', he⟩)
      · cases heq
        exact ⟨0, rest, d, rfl, rfl, (mem_placed d rest e).1 he⟩
      · exact ⟨i + 1, rest, d', by rw [Nat.add_right_comm, Nat.add_assoc], hd', he⟩
    · rintro ⟨i, rest, d', rfl, hd', he⟩
      cases i with
      | zero =>
        cases hd'
        exact .inl ⟨(rest, e), (mem_placed d rest e).2 he, rfl⟩
      | succ i => exact .inr ⟨i, rest, d', by rw [Nat.add_right_comm, Nat.add_assoc], hd', he⟩
end

mutual
theorem pairwise_placed : ∀ d : Declaration, (d.placed.map Prod.fst).Pairwise (· < ·)
  | ⟨kind, name, typeParameters, parameterTypes, span, children⟩ => by
    rw [placed, List.map_cons, List.pairwise_cons]
    refine ⟨fun place hp => ?_, pairwise_placedAll children 0⟩
    obtain ⟨⟨place, e⟩, he, rfl⟩ := List.mem_map.1 hp
    obtain ⟨i, rest, -, rfl, -⟩ := (mem_placedAll children 0 place e).1 he
    exact List.nil_lt_cons _ _

/-- The places ascend: a place comes before those inside it, and siblings come from left to right with all that is
inside them. -/
theorem pairwise_placedAll : ∀ (ds : List Declaration) (first : Nat),
    ((placedAll first ds).map Prod.fst).Pairwise (· < ·)
  | [], first => .nil
  | d :: ds, first => by
    rw [placedAll, List.map_append, List.map_map, List.pairwise_append]
    refine ⟨?_, pairwise_placedAll ds (first + 1), fun place hp place' hp' => ?_⟩
    · have h := pairwise_placed d
      rw [List.pairwise_map] at h ⊢
      exact h.imp fun hlt => List.cons_lt_cons_iff.2 (.inr ⟨rfl, hlt⟩)
    · obtain ⟨e, -, rfl⟩ := List.mem_map.1 hp
      obtain ⟨⟨place', e'⟩, he', rfl⟩ := List.mem_map.1 hp'
      obtain ⟨i, rest, -, rfl, -⟩ := (mem_placedAll ds (first + 1) place' e').1 he'
      exact List.cons_lt_cons_iff.2 (.inl (by omega))
end

/-! ### Keys -/

theorem genericName_ne_nil {name : Text} (h : name ≠ []) (typeParameters : List Text) :
    genericName name typeParameters ≠ [] := by
  unfold genericName
  split
  · exact h
  · simp

theorem ne_nil_of_mem_keys (h : d.kind.isNamed → d.name ≠ []) (hk : k ∈ d.keys) : k ≠ [] := by
  unfold keys at hk
  -- the parameters of a method make up a key of their own; all other kinds but namespaces have one key
  cases hkind : d.kind <;> rw [hkind] at h <;> simp only [hkind] at hk
  case namespaceDecl =>
    have hpart := (List.mem_filter.1 hk).2
    simpa using hpart
  case method =>
    rcases List.mem_cons.1 hk with rfl | hk
    · exact genericName_ne_nil (h rfl) _
    · rw [List.mem_singleton.1 hk]
      exact List.cons_ne_nil _ _
  all_goals rw [List.mem_singleton.1 hk]
  case classDecl | structDecl | interfaceDecl | recordDecl | enumDecl => exact genericName_ne_nil (h rfl) _
  case enumMember | field | property | event | accessor => exact h rfl
  case indexer => exact List.cons_ne_nil _ _
  case constructor | destructor => decide

/-- Of a declaration the listing of paths shows its kind and its span, if it has keys. -/
theorem map_qualifiedPathsAll (h : ∀ d ∈ preorderAll ds, d.kind.isNamed → d.name ≠ []) :
    (qualifiedPathsAll [] ds).map (fun q => (q.kind, q.span)) =
      ((preorderAll ds).filter fun d => !d.keys.isEmpty).map fun d => (d.kind, d.span) := by
  have hkeys : ∀ e ∈ chainsAll ds, ∀ k ∈ e.2.keys, k ≠ [] := fun e he k hk =>
    ne_nil_of_mem_keys (h e.2 (map_snd_chainsAll ds ▸ List.mem_map_of_mem he)) hk
  have hlisting : qualifiedPathsAll [] ds = listing [] (chainsAll ds) := qualifiedPathsAll_eq ds [] hkeys
  rw [hlisting, listing, ← map_snd_chainsAll, List.filter_map, List.map_map, List.map_map]
  rfl

end Declaration

namespace DeclarationTree
variable {stack ds es : List Declaration} {d : Declaration} {tree : DeclarationTree} {place : List Nat}

/-- The declaration at a place of the file. -/
def at? (tree : DeclarationTree) : List Nat → Option Declaration
  | [] => none
  | i :: place => tree.declarations[i]?.bind (·.below? place)

theorem mem_placedAll_iff : (place, d) ∈ Declaration.placedAll 0 tree.declarations ↔ tree.at? place = some d := by
  rw [Declaration.mem_placedAll]
  cases place with
  | nil => simp [at?]
  | cons i place => simp [at?, Option.bind_eq_some_iff]

/-- Drawing from the stack comes to an end and gives the declarations. -/
inductive Yields : List Declaration → List Declaration → Prop
  | done {stack : List Declaration} (h : next? stack = none) : Yields stack []
  | draw {stack rest ds : List Declaration} {d : Declaration} (h : next? stack = some (d, rest))
      (hrest : Yields rest ds) : Yields stack (d :: ds)

theorem yields_visit (stack : List Declaration) : Yields stack (visit stack) := by
  fun_induction visit stack with
  | case1 stack hnone => exact .done hnone
  | case2 stack d rest hnext _ ih => exact .draw hnext ih

theorem Yields.unique (h : Yields stack ds) (h' : Yields stack es) : ds = es := by
  induction h generalizing es with
  | done hnone =>
    cases h' with
    | done => rfl
    | draw hnext => rw [hnone] at hnext; cases hnext
  | draw hnext _ ih =>
    cases h' with
    | done hnone => rw [hnext] at hnone; cases hnone
    | draw hnext' hrest' =>
      rw [hnext] at hnext'
      cases hnext'
      rw [ih hrest']

theorem yields_iff : Yields stack ds ↔ ds = visit stack :=
  ⟨fun h => h.unique (yields_visit stack), fun h => h ▸ yields_visit stack⟩

/-- Drawing from the stack of a file ends and gives the declarations in recursive pre-order, each place once: a
declaration before its children, and siblings from left to right. If every declaration that takes a key from its name
has a name, the listing of paths shows the same declarations in the same order, except those without keys. -/
theorem walk_preorder (tree : DeclarationTree) :
    (∀ ds, Yields tree.declarations.reverse ds ↔ ds = tree.walk) ∧
    tree.walk = Declaration.preorderAll tree.declarations ∧
    (∃ placed : List (List Nat × Declaration),
      placed.map Prod.snd = tree.walk ∧ (∀ place d, (place, d) ∈ placed ↔ tree.at? place = some d) ∧
      (placed.map Prod.fst).Pairwise (· < ·)) ∧
    ((∀ d ∈ tree.walk, d.kind.isNamed → d.name ≠ []) →
      tree.qualifiedPaths.map (fun q => (q.kind, q.span)) =
        (tree.walk.filter fun d => !d.keys.isEmpty).map fun d => (d.kind, d.span)) := by
  refine ⟨fun ds => yields_iff, walk_eq tree, ⟨Declaration.placedAll 0 tree.declarations, ?_, fun place d =>
    mem_placedAll_iff, Declaration.pairwise_placedAll tree.declarations 0⟩, fun h => ?_⟩
  · rw [walk_eq, Declaration.map_snd_placedAll]
  · rw [walk_eq] at h ⊢
    exact Declaration.map_qualifiedPathsAll h

/-- An indexer with an accessor in a class, which is in a namespace without a name, and two equal fields after it. -/
def nameless : DeclarationTree :=
  .ofLength 99 [⟨.namespaceDecl, " . ".toList, [], [], ⟨0, 90⟩, [⟨.classDecl, ['C'], [], [], ⟨10, 80⟩,
    [⟨.indexer, [], [], [['i']], ⟨20, 40⟩, [⟨.accessor, "get".toList, [], [], ⟨30, 35⟩, []⟩]⟩,
      ⟨.field, ['a'], [], [], ⟨50, 60⟩, []⟩, ⟨.field, ['a'], [], [], ⟨50, 60⟩, []⟩]⟩]⟩]

theorem walk_preorder_nameless :
    (∀ d ∈ nameless.walk, d.kind.isNamed → d.name ≠ []) ∧ nameless.walk.length = 6 ∧
      nameless.qualifiedPaths.map (fun q => (q.kind, q.span)) =
        [(.classDecl, ⟨10, 80⟩), (.indexer, ⟨20, 40⟩), (.accessor, ⟨30, 35⟩), (.field, ⟨50, 60⟩),
          (.field, ⟨50, 60⟩)] := by
  obtain ⟨-, hwalk, -, hpaths⟩ := walk_preorder nameless
  have hnamed : ∀ d ∈ nameless.walk, d.kind.isNamed → d.name ≠ [] := by
    rw [hwalk]
    simp [nameless, ofLength, Declaration.preorderAll, Declaration.preorder, DeclarationKind.isNamed]
  refine ⟨hnamed, by rw [hwalk]; rfl, ?_⟩
  rw [hpaths hnamed, hwalk]
  decide +kernel

end DeclarationTree

end Excerpt
