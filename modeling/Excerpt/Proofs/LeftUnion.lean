import Excerpt.Proofs.SiblingOrder

/-!
# Merging is a left-biased union

`Node.Ordered` is kept by every operation on nodes, so the search by halving always runs over an ascending list and
`offerSpan` refuses a span exactly if its start is there. On ordered nodes `merge` is a union that prefers the left one:
`mem_spansAt_merge` says which spans a path leads to afterwards. A node is fixed by the paths that lead somewhere and by
the spans at their ends (`Ordered.ext_spansAt`), so the laws of merging are laws about the members of these spans.
-/

namespace Excerpt

namespace Index

section offerSpan
variable {s t : Span} {l spans : List Span}

/-- What is offered to an ascending list is refused if its start is there, and goes in otherwise. -/
theorem offerSpan_of_ascending (h : (l.map Span.start).Pairwise (· < ·)) :
    (s.start ∈ l.map Span.start ∧ offerSpan s l = (false, l)) ∨
    (s.start ∉ l.map Span.start ∧ (offerSpan s l).1 = true ∧ ∀ t, t ∈ (offerSpan s l).2 ↔ t = s ∨ t ∈ l) := by
  obtain hthere | ⟨below, above, rfl, heq, hsides⟩ := offerSpan_cases s l
  · exact .inl hthere
  · obtain ⟨hbelow, habove⟩ := hsides h
    refine .inr ⟨fun hmem => ?_, by rw [heq], fun t => ?_⟩
    · obtain ⟨t, ht, hts⟩ := List.mem_map.1 hmem
      rcases List.mem_append.1 ht with ht | ht
      · exact Nat.ne_of_lt (hbelow t ht) hts
      · exact Nat.ne_of_gt (habove t ht) hts
    · rw [heq]
      simp only [List.mem_append, List.mem_cons]
      exact or_left_comm

theorem mem_insertSpan (h : (l.map Span.start).Pairwise (· < ·)) :
    t ∈ insertSpan s l ↔ t ∈ l ∨ t = s ∧ s.start ∉ l.map Span.start := by
  rw [insertSpan]
  obtain ⟨hmem, heq⟩ | ⟨hnot, -, hiff⟩ := offerSpan_of_ascending (s := s) h
  · rw [heq]
    exact ⟨.inl, fun ht => ht.elim id fun ht => absurd hmem ht.2⟩
  · rw [hiff, and_iff_left hnot]
    exact or_comm

theorem mem_foldl_insertSpan (hl : (l.map Span.start).Pairwise (· < ·)) (hs : (spans.map Span.start).Pairwise (· < ·)) :
    t ∈ spans.foldl (fun acc span => insertSpan span acc) l ↔ t ∈ l ∨ t ∈ spans ∧ t.start ∉ l.map Span.start := by
  induction spans generalizing l with
  | nil => simp
  | cons s spans ih =>
    rw [List.map_cons, List.pairwise_cons] at hs
    have hne : t ∈ spans → t.start ≠ s.start := fun ht => Nat.ne_of_gt (hs.1 _ (List.mem_map_of_mem ht))
    rw [List.foldl_cons, ih (ascending_insertSpan hl) hs.2, mem_insertSpan hl, mem_starts_insertSpan, List.mem_cons]
    constructor
    · rintro ((ht | ⟨rfl, hnot⟩) | ⟨ht, hnot⟩)
      exacts [.inl ht, .inr ⟨.inl rfl, hnot⟩, .inr ⟨.inr ht, fun hm => hnot (.inr hm)⟩]
    · rintro (ht | ⟨rfl | ht, hnot⟩)
      exacts [.inl (.inl ht), .inl (.inr ⟨rfl, hnot⟩), .inr ⟨ht, fun hm => hm.elim (hne ht) hnot⟩]

end offerSpan

namespace Node
variable {a b c n : Node} {key : Text} {path : List Text} {s : Span} {f : Node → Node}

/-! ### Operations keep nodes ordered -/

theorem insertChild_eq_merge_single (a : Node) (key : Text) (n : Node) :
    a.insertChild key n = a.merge (single key n) := by
  rw [single_eq, merge, mergeChildren, mergeChildren]
  rfl

theorem Ordered.insertChild (ha : a.Ordered) (hn : n.Ordered) (key : Text) : (a.insertChild key n).Ordered := by
  rw [insertChild_eq_merge_single]
  exact ha.merge (hn.single key)

theorem child?_updateEntry (a : Node) (key : Text) (f : Node → Node) (k : Text) :
    (a.updateEntry key f).child? k = if k = key then some (f ((a.child? key).getD empty)) else a.child? k := by
  split
  next h => subst h; exact Table.lookup_insert_self _
  next h => exact Table.lookup_insert_of_ne h _

theorem Ordered.updateEntry (ha : a.Ordered) (hf : (f ((a.child? key).getD empty)).Ordered) :
    (a.updateEntry key f).Ordered := by
  intro path m hm
  cases path with
  | nil =>
    cases hm
    exact ⟨Table.ascending_insert ha.sorted.keys, ha.sorted.spans⟩
  | cons k path =>
    rw [walk?_cons, child?_updateEntry] at hm
    split at hm
    · exact hf path m hm
    · exact ha (k :: path) m hm

theorem Ordered.getD_child? (ha : a.Ordered) (key : Text) : ((a.child? key).getD empty).Ordered := by
  cases h : a.child? key with
  | none => exact ordered_empty
  | some m => exact ha.child h

/-! ### What a merged node holds -/

/-- The spans at the end of a path; none if it leads nowhere. -/
def spansAt (n : Node) (path : List Text) : List Span := ((n.walk? path).map spans).getD []

theorem Ordered.spansAt (h : n.Ordered) (path : List Text) : ((n.spansAt path).map Span.start).Pairwise (· < ·) := by
  unfold Node.spansAt
  cases hm : n.walk? path with
  | none => exact List.Pairwise.nil
  | some m => exact (h path m hm).spans

theorem Ordered.ext_spansAt (ha : a.Ordered) (hb : b.Ordered)
    (hreach : ∀ path, (a.walk? path).isSome = (b.walk? path).isSome)
    (hspans : ∀ path s, s ∈ a.spansAt path ↔ s ∈ b.spansAt path) : a = b := by
  refine ha.ext hb fun path => ?_
  have heq : a.spansAt path = b.spansAt path :=
    eq_of_mem_spans_iff (ha.spansAt path) (hb.spansAt path) (hspans path)
  have hsome := hreach path
  unfold Node.spansAt at heq
  cases hwa : a.walk? path with
  | none => cases hwb : b.walk? path with
    | none => rfl
    | some m => simp [hwa, hwb] at hsome
  | some l => cases hwb : b.walk? path with
    | none => simp [hwa, hwb] at hsome
    | some m => simpa [hwa, hwb] using heq

theorem isSome_walk?_merge (a : Node) (hb : b.Ordered) (path : List Text) :
    ((a.merge b).walk? path).isSome = ((a.walk? path).isSome || (b.walk? path).isSome) := by
  rw [walk?_merge a hb, Option.isSome_merge]

/-- After merging, a path leads to the spans on the left and to those on the right whose start is new. -/
theorem mem_spansAt_merge (ha : a.Ordered) (hb : b.Ordered) :
    s ∈ (a.merge b).spansAt path ↔
      s ∈ a.spansAt path ∨ s ∈ b.spansAt path ∧ s.start ∉ (a.spansAt path).map Span.start := by
  have hasc := ha.spansAt path
  have hbsc := hb.spansAt path
  unfold spansAt at hasc hbsc ⊢
  rw [walk?_merge a hb]
  cases hwa : a.walk? path with
  | none => cases b.walk? path <;> simp
  | some l =>
    cases hwb : b.walk? path with
    | none => simp
    | some m =>
      rw [hwa] at hasc
      rw [hwb] at hbsc
      show s ∈ (l.merge m).spans ↔ _
      rw [spans_merge]
      exact mem_foldl_insertSpan hasc hbsc

theorem mem_starts_spansAt_merge (ha : a.Ordered) (hb : b.Ordered) {start : Nat} :
    start ∈ ((a.merge b).spansAt path).map Span.start ↔
      start ∈ (a.spansAt path).map Span.start ∨ start ∈ (b.spansAt path).map Span.start := by
  constructor
  · intro h
    obtain ⟨s, hs, rfl⟩ := List.mem_map.1 h
    exact ((mem_spansAt_merge ha hb).1 hs).imp List.mem_map_of_mem fun hs => List.mem_map_of_mem hs.1
  · intro h
    by_cases hstart : start ∈ (a.spansAt path).map Span.start
    · obtain ⟨s, hs, rfl⟩ := List.mem_map.1 hstart
      exact List.mem_map_of_mem ((mem_spansAt_merge ha hb).2 (.inl hs))
    · obtain ⟨s, hs, rfl⟩ := List.mem_map.1 (h.resolve_left hstart)
      exact List.mem_map_of_mem ((mem_spansAt_merge ha hb).2 (.inr ⟨hs, hstart⟩))

/-! ### The laws of merging -/

theorem merge_empty (a : Node) : a.merge empty = a := by
  cases a
  rw [empty, merge, mergeChildren]
  rfl

theorem merge_self (h : a.Ordered) : a.merge a = a :=
  (h.merge h).ext_spansAt h (fun path => by rw [isSome_walk?_merge a h, Bool.or_self]) fun path s => by
    rw [mem_spansAt_merge h h]
    exact ⟨fun hs => hs.elim id And.left, .inl⟩

theorem merge_assoc (ha : a.Ordered) (hb : b.Ordered) (hc : c.Ordered) :
    (a.merge b).merge c = a.merge (b.merge c) := by
  have hab := ha.merge hb
  have hbc := hb.merge hc
  refine (hab.merge hc).ext_spansAt (ha.merge hbc) (fun path => ?_) fun path s => ?_
  · rw [isSome_walk?_merge _ hc, isSome_walk?_merge _ hb, isSome_walk?_merge _ hbc, isSome_walk?_merge _ hc,
      Bool.or_assoc]
  · rw [mem_spansAt_merge hab hc, mem_spansAt_merge ha hb, mem_starts_spansAt_merge ha hb, mem_spansAt_merge ha hbc,
      mem_spansAt_merge hb hc, not_or]
    -- a span of the third node stays if its start is neither on the left nor in the middle
    constructor
    · rintro ((hs | ⟨hs, hna⟩) | ⟨hs, hna, hnb⟩)
      exacts [.inl hs, .inr ⟨.inl hs, hna⟩, .inr ⟨.inr ⟨hs, hnb⟩, hna⟩]
    · rintro (hs | ⟨hs | ⟨hs, hnb⟩, hna⟩)
      exacts [.inl (.inl hs), .inl (.inr ⟨hs, hna⟩), .inr ⟨hs, hna, hnb⟩]

/-- Where both nodes have a span with one start at one path, it is the same span. -/
def Agree (a b : Node) : Prop :=
  ∀ path, ∀ s ∈ a.spansAt path, ∀ t ∈ b.spansAt path, s.start = t.start → s = t

theorem Agree.symm (h : Agree a b) : Agree b a := fun path s hs t ht hst => (h path t ht s hs hst.symm).symm

theorem mem_spansAt_merge_swap (ha : a.Ordered) (hb : b.Ordered) (h : Agree a b) (hs : s ∈ (a.merge b).spansAt path) :
    s ∈ (b.merge a).spansAt path := by
  rw [mem_spansAt_merge hb ha]
  rcases (mem_spansAt_merge ha hb).1 hs with hs | ⟨hs, -⟩
  · by_cases hstart : s.start ∈ (b.spansAt path).map Span.start
    · obtain ⟨t, ht, hts⟩ := List.mem_map.1 hstart
      rw [h path s hs t ht hts.symm]
      exact .inl ht
    · exact .inr ⟨hs, hstart⟩
  · exact .inl hs

theorem merge_comm (ha : a.Ordered) (hb : b.Ordered) (h : Agree a b) : a.merge b = b.merge a :=
  (ha.merge hb).ext_spansAt (hb.merge ha)
    (fun path => by rw [isSome_walk?_merge a hb, isSome_walk?_merge b ha, Bool.or_comm]) fun path s =>
    ⟨mem_spansAt_merge_swap ha hb h, mem_spansAt_merge_swap hb ha h.symm⟩

theorem foldl_addSpan (spans : List Span) (a : Node) :
    spans.foldl addSpan a = mk (spans.foldl (fun acc span => insertSpan span acc) a.spans) a.children := by
  induction spans generalizing a with
  | nil => cases a; rfl
  | cons s spans ih => exact ih (a.addSpan s)

theorem foldl_insertChild (children : List (Text × Node)) (a : Node) :
    children.foldl (fun node p => node.insertChild p.1 p.2) a = mk a.spans (mergeChildren a.children children) := by
  induction children generalizing a with
  | nil =>
    cases a
    rw [mergeChildren]
    rfl
  | cons p rest ih =>
    rw [List.foldl_cons, ih, mergeChildren]
    rfl

/-- A merge adds the spans one after the other, and then the children. -/
theorem merge_eq_foldl (a b : Node) :
    a.merge b = b.children.foldl (fun node p => node.insertChild p.1 p.2) (b.spans.foldl addSpan a) := by
  rw [foldl_addSpan, foldl_insertChild]
  cases b
  rw [merge]
  rfl

/-- A node refuses a span if its start is there, and is unchanged then; otherwise it takes the span. -/
theorem Sorted.offerSpan_cases (h : n.Sorted) (s : Span) :
    (s.start ∈ n.spans.map Span.start ∧ n.offerSpan s = (false, n)) ∨
    (s.start ∉ n.spans.map Span.start ∧ (n.offerSpan s).1 = true ∧ (n.offerSpan s).2.children = n.children ∧
      ∀ t, t ∈ (n.offerSpan s).2.spans ↔ t = s ∨ t ∈ n.spans) := by
  obtain ⟨hmem, heq⟩ | ⟨hnot, htrue, hiff⟩ := offerSpan_of_ascending (s := s) h.spans
  · refine .inl ⟨hmem, ?_⟩
    rw [Node.offerSpan, heq]
    cases n
    rfl
  · exact .inr ⟨hnot, htrue, rfl, hiff⟩

/-- The shape of index nodes is kept by all operations on them, so every node of a built index has it. A span is refused
exactly if a span with its start is there; then nothing changes, and otherwise the span is added. Merging adds the spans
and then the children of the right node one after the other. It keeps all spans of the left node and takes those of the
right one whose start is new. Copying from a node is merging with it; merging is associative and idempotent, the empty
node is neutral, and the order does not matter if the nodes agree. -/
theorem ordered_leftUnion (ha : a.Ordered) (hb : b.Ordered) (hc : c.Ordered) :
    ((∀ s, (a.offerSpan s).2.Ordered) ∧
      (∀ key f, (∀ n, n.Ordered → (f n).Ordered) → (a.updateEntry key f).Ordered) ∧
      (∀ key, (a.insertChild key b).Ordered) ∧ (a.merge b).Ordered ∧ (a.mergeFrom b).Ordered ∧
      ∀ tree, (build tree).root.Ordered) ∧
    (∀ s, ((a.offerSpan s).1 = false ↔ s.start ∈ a.spans.map Span.start) ∧
      ((a.offerSpan s).1 = false → (a.offerSpan s).2 = a) ∧
      ((a.offerSpan s).1 = true → (a.offerSpan s).2.children = a.children ∧
        ∀ t, t ∈ (a.offerSpan s).2.spans ↔ t = s ∨ t ∈ a.spans)) ∧
    (a.merge b = b.children.foldl (fun node p => node.insertChild p.1 p.2) (b.spans.foldl addSpan a) ∧
      (∀ path, ((a.merge b).walk? path).isSome = ((a.walk? path).isSome || (b.walk? path).isSome)) ∧
      ∀ path s, s ∈ (a.merge b).spansAt path ↔
        s ∈ a.spansAt path ∨ s ∈ b.spansAt path ∧ s.start ∉ (a.spansAt path).map Span.start) ∧
    a.mergeFrom b = a.merge b ∧
    (a.merge b).merge c = a.merge (b.merge c) ∧ a.merge a = a ∧ empty.merge a = a ∧ a.merge empty = a ∧
    (Agree a b → a.merge b = b.merge a) := by
  refine ⟨⟨ha.addSpan, fun key f hf => ha.updateEntry (hf _ (ha.getD_child? key)), ha.insertChild hb, ha.merge hb,
    mergeFrom_eq_merge b a ▸ ha.merge hb, fun tree => (models_build tree).ordered⟩, fun s => ?_,
    ⟨merge_eq_foldl a b, isSome_walk?_merge a hb, fun path s => mem_spansAt_merge ha hb⟩, mergeFrom_eq_merge b a,
    merge_assoc ha hb hc, merge_self ha, empty_merge ha.sorted, merge_empty a, merge_comm ha hb⟩
  obtain ⟨hmem, heq⟩ | ⟨hnot, htrue, hkept, hiff⟩ := ha.sorted.offerSpan_cases s
  · rw [heq]
    exact ⟨iff_of_true rfl hmem, fun _ => rfl, fun h => nomatch h⟩
  · rw [htrue]
    exact ⟨iff_of_false (fun h => nomatch h) hnot, fun h => (nomatch h), fun _ => ⟨hkept, hiff⟩⟩

/-- A class with a member. -/
def oneMember : Node := single ['A'] ((single ['x'] (empty.addSpan ⟨1, 2⟩)).addSpan ⟨0, 5⟩)

/-- Two classes of that name with another member; the first one starts where the other starts but ends later. -/
def otherMember : Node := single ['A'] (((single ['y'] (empty.addSpan ⟨11, 12⟩)).addSpan ⟨10, 15⟩).addSpan ⟨0, 9⟩)

/-- A class of another name. -/
def otherClass : Node := single ['B'] (empty.addSpan ⟨20, 30⟩)

theorem ordered_leftUnion_members :
    (oneMember.Ordered ∧ otherMember.Ordered ∧ otherClass.Ordered ∧ Agree oneMember otherClass) ∧
      (oneMember.merge otherMember).spansAt [['A']] = [⟨0, 5⟩, ⟨10, 15⟩] ∧
      (otherMember.merge oneMember).spansAt [['A']] = [⟨0, 9⟩, ⟨10, 15⟩] ∧
      ((oneMember.merge otherMember).walk? [['A'], ['y']]).isSome ∧
      (oneMember.merge otherMember).merge otherClass = oneMember.merge (otherMember.merge otherClass) ∧
      oneMember.merge otherClass = otherClass.merge oneMember := by
  have hone : oneMember.Ordered := (((ordered_empty.addSpan _).single _).addSpan _).single _
  have hother : otherMember.Ordered := ((((ordered_empty.addSpan _).single _).addSpan _).addSpan _).single _
  have hclass : otherClass.Ordered := (ordered_empty.addSpan _).single _
  have hagree : Agree oneMember otherClass := by
    intro path s hs t ht
    cases path with
    | nil => cases hs
    | cons k path =>
      by_cases hk : k = ['A']
      · subst hk
        rw [spansAt, otherClass, walk?_single_of_ne (by decide)] at ht
        cases ht
      · rw [spansAt, oneMember, walk?_single_of_ne hk] at hs
        cases hs
  obtain ⟨-, -, -, -, hassoc, -⟩ := ordered_leftUnion hone hother hclass
  obtain ⟨-, -, -, -, -, -, -, -, hcomm⟩ := ordered_leftUnion hone hclass hother
  exact ⟨⟨hone, hother, hclass, hagree⟩, by decide, by decide, by decide, hassoc, hcomm hagree⟩

end Node

end Index

end Excerpt
