import Excerpt.Index.Node
import Mathlib.Data.Set.Image

/-! # Index nodes seen by walking

What a node holds is what `Node.walk?` finds in it. `Node.Ordered` is the shape that every node of an index has:
at the node and at every node below it, the keys ascend and the starts of the spans ascend. On such nodes merging
is a union at every path (`walk?_merge`). What offering a span to a list can do is said once (`offerSpan_cases`); only
its proof opens the search by halving.

`Node.Models n paths held` says what is in a node: `paths` are the paths that lead somewhere, and `held` are the
spans at their ends. Of two spans with one start only one is kept, so `held` bounds the spans from above and the
starts of the spans on both sides. Each operation on nodes has one lemma about `Models`. -/

namespace Excerpt

namespace Table
variable {α : Type} {key : Text} {a : α} {table : List (Text × α)}

theorem insert_of_forall_lt (h : ∀ k ∈ table.map Prod.fst, k < key) : insert key a table = table ++ [(key, a)] := by
  induction table with
  | nil => rfl
  | cons p rest ih =>
    obtain ⟨l, b⟩ := p
    have hlt : l < key := h l (by simp)
    rw [insert, if_neg fun hl => List.lt_irrefl l (List.lt_trans hlt hl),
      if_neg fun hl : key = l => List.lt_irrefl l (hl ▸ hlt), ih fun k hk => h k (List.mem_cons_of_mem _ hk)]
    rfl

theorem lookup_eq_none_of_lt (h : ∀ k ∈ table.map Prod.fst, key < k) : table.lookup key = none := by
  refine List.lookup_eq_none_iff.2 fun p hp => ?_
  have hlt := h p.1 (List.mem_map_of_mem hp)
  exact bne_iff_ne.2 fun heq => List.lt_irrefl key (heq ▸ hlt)

end Table

namespace Index

section insertSpan
variable {s t : Span} {l spans : List Span} {n start low place : Nat}

theorem exists_of_searchFrom_eq_ok (h : searchFrom start low l = .ok place) : ∃ s ∈ l, s.start = start := by
  fun_induction searchFrom start low l with
  | case1 => cases h
  | case2 low l half s above hdrop hlt ih =>
    obtain ⟨t, ht, hts⟩ := ih h
    exact ⟨t, List.mem_of_mem_take ht, hts⟩
  | case3 low l half s above hdrop hlt heq => exact ⟨s, List.mem_of_mem_drop (hdrop ▸ List.mem_cons_self), heq.symm⟩
  | case4 low l half s above hdrop hlt heq ih =>
    obtain ⟨t, ht, hts⟩ := ih h
    exact ⟨t, List.mem_of_mem_drop (hdrop ▸ List.mem_cons_of_mem _ ht), hts⟩

theorem eq_take_append_of_drop {above : List Span} (h : l.drop n = s :: above) : l = l.take n ++ s :: above := by
  rw [← h, List.take_append_drop]

/-- A start that is not found belongs where the search ends, if the list ascends. -/
theorem exists_of_searchFrom_eq_error (h : searchFrom start low l = .error place) :
    ∃ below above, l = below ++ above ∧ place = low + below.length ∧
      ((l.map Span.start).Pairwise (· < ·) → (∀ s ∈ below, s.start < start) ∧ ∀ s ∈ above, start < s.start) := by
  fun_induction searchFrom start low l with
  | case1 low l half hdrop =>
    cases h
    have hnil : l = [] := by
      have hlength := List.drop_eq_nil_iff.1 hdrop
      exact List.eq_nil_of_length_eq_zero (by omega)
    exact ⟨[], [], hnil, rfl, by simp⟩
  | case2 low l half s above hdrop hlt ih =>
    -- the start belongs below the middle span, and all spans after that one start later still
    have hsplit := eq_take_append_of_drop hdrop
    obtain ⟨below, middle, htake, hplace, hsides⟩ := ih h
    have hl : l = below ++ (middle ++ s :: above) := by rw [← List.append_assoc, ← htake, ← hsplit]
    refine ⟨below, middle ++ s :: above, hl, hplace, fun hasc => ?_⟩
    rw [hsplit, List.map_append, List.pairwise_append] at hasc
    obtain ⟨hbelow, hmiddle⟩ := hsides hasc.1
    refine ⟨hbelow, List.forall_mem_append.2 ⟨hmiddle, List.forall_mem_cons.2 ⟨hlt, fun t ht => ?_⟩⟩⟩
    exact Nat.lt_trans hlt ((List.pairwise_cons.1 hasc.2.1).1 _ (List.mem_map_of_mem ht))
  | case3 => cases h
  | case4 low l half s above hdrop hlt heq ih =>
    have hsplit := eq_take_append_of_drop hdrop
    obtain ⟨middle, rest, hrest, hplace, hsides⟩ := ih h
    have hl : l = (l.take half ++ s :: middle) ++ rest := by
      rw [List.append_assoc, List.cons_append, ← hrest, ← hsplit]
    have hlength := congrArg List.length hdrop
    rw [List.length_drop, List.length_cons] at hlength
    refine ⟨l.take half ++ s :: middle, rest, hl, ?_, fun hasc => ?_⟩
    · rw [List.length_append, List.length_take, List.length_cons]
      omega
    · have hs : s.start < start := by omega
      rw [hsplit, List.map_append, List.pairwise_append] at hasc
      obtain ⟨hmiddle, habove⟩ := hsides (List.pairwise_cons.1 hasc.2.1).2
      refine ⟨List.forall_mem_append.2 ⟨fun t ht => ?_, List.forall_mem_cons.2 ⟨hs, hmiddle⟩⟩, habove⟩
      exact Nat.lt_trans (hasc.2.2 _ (List.mem_map_of_mem ht) _ List.mem_cons_self) hs

/-- A span is refused if one with its start is there; otherwise it goes in, at its place if the list ascends. -/
theorem offerSpan_cases (s : Span) (l : List Span) :
    (s.start ∈ l.map Span.start ∧ offerSpan s l = (false, l)) ∨
    ∃ below above, l = below ++ above ∧ offerSpan s l = (true, below ++ s :: above) ∧
      ((l.map Span.start).Pairwise (· < ·) → (∀ t ∈ below, t.start < s.start) ∧ ∀ t ∈ above, s.start < t.start) := by
  unfold offerSpan
  cases h : searchFrom s.start 0 l with
  | ok place =>
    obtain ⟨t, ht, hts⟩ := exists_of_searchFrom_eq_ok h
    exact .inl ⟨List.mem_map.2 ⟨t, ht, hts⟩, rfl⟩
  | error place =>
    obtain ⟨below, above, rfl, rfl, hsides⟩ := exists_of_searchFrom_eq_error h
    refine .inr ⟨below, above, rfl, ?_, hsides⟩
    simp only [Nat.zero_add, List.take_left, List.drop_left]

theorem mem_of_mem_insertSpan (h : t ∈ insertSpan s l) : t = s ∨ t ∈ l := by
  rw [insertSpan] at h
  obtain ⟨-, heq⟩ | ⟨below, above, rfl, heq, -⟩ := offerSpan_cases s l <;> rw [heq] at h
  · exact .inr h
  · simp only [List.mem_append, List.mem_cons] at h ⊢
    exact or_left_comm.1 h

theorem mem_starts_insertSpan :
    n ∈ (insertSpan s l).map Span.start ↔ n = s.start ∨ n ∈ l.map Span.start := by
  rw [insertSpan]
  obtain ⟨hmem, heq⟩ | ⟨below, above, rfl, heq, -⟩ := offerSpan_cases s l <;> rw [heq]
  · exact ⟨.inr, fun h => h.elim (fun hn => hn ▸ hmem) id⟩
  · simp only [List.map_append, List.map_cons, List.mem_append, List.mem_cons]
    exact or_left_comm

theorem ascending_insertSpan (h : (l.map Span.start).Pairwise (· < ·)) :
    ((insertSpan s l).map Span.start).Pairwise (· < ·) := by
  rw [insertSpan]
  obtain ⟨-, heq⟩ | ⟨below, above, rfl, heq, hsides⟩ := offerSpan_cases s l <;> rw [heq]
  · exact h
  · obtain ⟨hbelow, habove⟩ := hsides h
    simp only [List.pairwise_map, List.pairwise_append] at h ⊢
    refine ⟨h.1, List.pairwise_cons.2 ⟨habove, h.2.1⟩, fun t ht u hu => ?_⟩
    rcases List.mem_cons.1 hu with rfl | hu
    · exact hbelow t ht
    · exact h.2.2 t ht u hu

theorem insertSpan_of_forall_lt (hl : (l.map Span.start).Pairwise (· < ·)) (h : ∀ k ∈ l.map Span.start, k < s.start) :
    insertSpan s l = l ++ [s] := by
  rw [insertSpan]
  obtain ⟨hmem, -⟩ | ⟨below, above, rfl, heq, hsides⟩ := offerSpan_cases s l
  · exact absurd (h _ hmem) (Nat.lt_irrefl _)
  · have habove : above = [] := List.eq_nil_iff_forall_not_mem.2 fun t ht =>
      Nat.lt_asymm ((hsides hl).2 t ht) (h _ (List.mem_map_of_mem (List.mem_append_right _ ht)))
    rw [heq, habove, List.append_nil]

theorem mem_of_mem_foldl_insertSpan (h : t ∈ spans.foldl (fun acc span => insertSpan span acc) l) :
    t ∈ l ∨ t ∈ spans := by
  induction spans generalizing l with
  | nil => exact .inl h
  | cons s spans ih =>
    rcases ih h with h | h
    · rcases mem_of_mem_insertSpan h with rfl | h
      · exact .inr (List.mem_cons_self ..)
      · exact .inl h
    · exact .inr (List.mem_cons_of_mem _ h)

theorem mem_starts_foldl_insertSpan :
    n ∈ (spans.foldl (fun acc span => insertSpan span acc) l).map Span.start ↔
      n ∈ l.map Span.start ∨ n ∈ spans.map Span.start := by
  induction spans generalizing l with
  | nil => simp
  | cons s spans ih =>
    rw [List.foldl_cons, ih, mem_starts_insertSpan, List.map_cons, List.mem_cons, or_assoc]
    exact or_left_comm

theorem ascending_foldl_insertSpan (h : (l.map Span.start).Pairwise (· < ·)) :
    ((spans.foldl (fun acc span => insertSpan span acc) l).map Span.start).Pairwise (· < ·) := by
  induction spans generalizing l with
  | nil => exact h
  | cons s spans ih => exact ih (ascending_insertSpan h)

theorem foldl_insertSpan_of_ascending (h : ((l ++ spans).map Span.start).Pairwise (· < ·)) :
    spans.foldl (fun acc span => insertSpan span acc) l = l ++ spans := by
  induction spans generalizing l with
  | nil => simp
  | cons s spans ih =>
    have hl : (l.map Span.start).Pairwise (· < ·) ∧ ∀ k ∈ l.map Span.start, k < s.start := by
      rw [List.map_append, List.pairwise_append] at h
      exact ⟨h.1, fun k hk => h.2.2 k hk s.start (by simp)⟩
    rw [List.foldl_cons, insertSpan_of_forall_lt hl.1 hl.2, ih (by simpa using h), List.append_assoc]
    rfl

end insertSpan

namespace Node
variable {a b m n : Node} {k key : Text} {path c : List Text} {s : Span}

@[simp] theorem walk?_nil (n : Node) : n.walk? [] = some n := rfl

theorem walk?_cons (n : Node) (key : Text) (path : List Text) :
    n.walk? (key :: path) = (n.child? key).bind (walk? · path) := rfl

@[simp] theorem walk?_addSpan_cons (n : Node) (s : Span) (key : Text) (path : List Text) :
    (n.addSpan s).walk? (key :: path) = n.walk? (key :: path) := rfl

theorem single_eq (key : Text) (n : Node) : single key n = .mk [] [(key, n)] := rfl

@[simp] theorem walk?_single_self (key : Text) (n : Node) (path : List Text) :
    (single key n).walk? (key :: path) = n.walk? path := by
  simp [walk?_cons, child?, single_eq, children]

theorem walk?_single_of_ne (h : k ≠ key) (n : Node) (path : List Text) :
    (single key n).walk? (k :: path) = none := by
  simp [walk?_cons, child?, single_eq, children, List.lookup_cons, beq_false_of_ne h]

theorem spans_merge (a b : Node) :
    (a.merge b).spans = b.spans.foldl (fun acc span => insertSpan span acc) a.spans := by
  cases b; rfl

theorem children_merge (a b : Node) : (a.merge b).children = mergeChildren a.children b.children := by
  cases b; rfl

/-- The keys of the node ascend, and the starts of its spans ascend. -/
structure Sorted (n : Node) : Prop where
  keys : n.keys.Pairwise (· < ·)
  spans : (n.spans.map Span.start).Pairwise (· < ·)

/-- The node and every node below it are sorted. -/
def Ordered (n : Node) : Prop := ∀ path m, n.walk? path = some m → m.Sorted

theorem Ordered.sorted (h : n.Ordered) : n.Sorted := h [] n rfl

theorem Ordered.child (h : n.Ordered) (hc : n.child? k = some m) : m.Ordered := fun path l hl =>
  h (k :: path) l (by rw [walk?_cons, hc]; exact hl)

theorem lookup_mergeChildren {left right : List (Text × Node)} (h : (right.map Prod.fst).Pairwise (· < ·)) :
    (mergeChildren left right).lookup k = Option.merge merge (left.lookup k) (right.lookup k) := by
  induction right generalizing left with
  | nil => simp [mergeChildren]
  | cons p rest ih =>
    obtain ⟨key, node⟩ := p
    rw [List.map_cons, List.pairwise_cons] at h
    rw [mergeChildren, ih h.2, Table.alter]
    by_cases hk : k = key
    · subst hk
      rw [Table.lookup_insert_self, Table.lookup_eq_none_of_lt h.1, List.lookup_cons_self]
      cases left.lookup k <;> rfl
    · rw [Table.lookup_insert_of_ne hk, List.lookup_cons, beq_false_of_ne hk]

theorem child?_merge (a : Node) (hb : b.Sorted) :
    (a.merge b).child? k = Option.merge merge (a.child? k) (b.child? k) := by
  rw [child?, children_merge]; exact lookup_mergeChildren hb.keys

/-- Merging is a union at every path. -/
theorem walk?_merge (a : Node) (hb : b.Ordered) (path : List Text) :
    (a.merge b).walk? path = Option.merge merge (a.walk? path) (b.walk? path) := by
  induction path generalizing a b with
  | nil => rfl
  | cons key path ih =>
    simp only [walk?_cons, child?_merge a hb.sorted]
    cases ha : a.child? key with
    | none => simp
    | some a' =>
      cases hb' : b.child? key with
      | none => simp
      | some b' => exact ih a' (hb.child hb')

theorem ascending_mergeChildren {left right : List (Text × Node)} (h : (left.map Prod.fst).Pairwise (· < ·)) :
    ((mergeChildren left right).map Prod.fst).Pairwise (· < ·) := by
  induction right generalizing left with
  | nil => rwa [mergeChildren]
  | cons p rest ih => rw [mergeChildren]; exact ih (Table.ascending_insert h)

theorem Sorted.merge (h : a.Sorted) (b : Node) : (a.merge b).Sorted where
  keys := by rw [Node.keys, children_merge]; exact ascending_mergeChildren h.keys
  spans := by rw [spans_merge]; exact ascending_foldl_insertSpan h.spans

theorem mergeChildren_of_ascending {left right : List (Text × Node)}
    (h : ((left ++ right).map Prod.fst).Pairwise (· < ·)) : mergeChildren left right = left ++ right := by
  induction right generalizing left with
  | nil => simp [mergeChildren]
  | cons p rest ih =>
    obtain ⟨key, node⟩ := p
    have hl : ∀ k ∈ left.map Prod.fst, k < key := by
      rw [List.map_append, List.pairwise_append] at h
      exact fun k hk => h.2.2 k hk key (by simp)
    have hnone : left.lookup key = none :=
      List.lookup_eq_none_iff.2 fun p hp => bne_iff_ne.2 fun heq =>
        List.lt_irrefl key (heq ▸ hl p.1 (List.mem_map_of_mem hp))
    rw [mergeChildren, Table.alter, hnone, Table.insert_of_forall_lt hl, ih (by simpa using h), List.append_assoc]
    rfl

theorem empty_merge (h : n.Sorted) : empty.merge n = n := by
  cases n with
  | mk spans children =>
    have hs : spans.foldl (fun acc span => insertSpan span acc) [] = spans :=
      foldl_insertSpan_of_ascending h.spans
    have hc : mergeChildren [] children = children := mergeChildren_of_ascending h.keys
    show mk (spans.foldl (fun acc span => insertSpan span acc) []) (mergeChildren [] children) = _
    rw [hs, hc]

mutual
/-- Copying from a node is merging with it. -/
theorem mergeFrom_eq_merge : ∀ b a : Node, a.mergeFrom b = a.merge b
  | .mk spans children, a => by rw [mergeFrom, merge, copyChildren_eq_mergeChildren children]

theorem copyChildren_eq_mergeChildren : ∀ right left : List (Text × Node),
    copyChildren left right = mergeChildren left right
  | [], left => by rw [copyChildren, mergeChildren]
  | (key, node) :: rest, left => by
    rw [copyChildren, mergeChildren, copyChildren_eq_mergeChildren rest, Table.alter]
    cases left.lookup key with
    | none => rfl
    | some old => simp only [mergeFrom_eq_merge node old]
end

/-- Merging under a key is merging the node with that one child. -/
theorem mergeAt_eq_merge_single (a : Node) (key : Text) (h : n.Sorted) :
    a.mergeAt key n = a.merge (single key n) := by
  show mk a.spans (Table.alter key (fun old => (old.getD empty).mergeFrom n) a.children) =
    mk a.spans (mergeChildren a.children [(key, n)])
  simp only [mergeFrom_eq_merge]
  rw [mergeChildren, mergeChildren, Table.alter, Table.alter]
  cases a.children.lookup key with
  | none =>
    have he : (Option.getD none empty).merge n = n := empty_merge h
    rw [he]
  | some old => rfl

theorem ordered_empty : empty.Ordered := by
  intro path m hm
  cases path with
  | nil => cases hm; exact ⟨List.Pairwise.nil, List.Pairwise.nil⟩
  | cons key path => cases hm

theorem Ordered.addSpan (h : n.Ordered) (s : Span) : (n.addSpan s).Ordered := by
  intro path m hm
  cases path with
  | nil => cases hm; exact ⟨h.sorted.keys, ascending_insertSpan h.sorted.spans⟩
  | cons key path => exact h (key :: path) m hm

theorem Ordered.single (h : n.Ordered) (key : Text) : (single key n).Ordered := by
  intro path m hm
  cases path with
  | nil => cases hm; exact ⟨List.pairwise_singleton _ _, List.Pairwise.nil⟩
  | cons k path =>
    by_cases hk : k = key
    · subst hk; rw [walk?_single_self] at hm; exact h path m hm
    · rw [walk?_single_of_ne hk] at hm; cases hm

theorem Ordered.merge (ha : a.Ordered) (hb : b.Ordered) : (a.merge b).Ordered := by
  intro path m hm
  rw [walk?_merge a hb, Option.merge_eq_some_iff] at hm
  rcases hm with ⟨hl, -⟩ | ⟨-, hr⟩ | ⟨l, r, hl, -, rfl⟩
  · exact ha path m hl
  · exact hb path m hr
  · exact (ha path l hl).merge r

/-- `paths` are the paths that lead somewhere in the node. Every span at the end of a path is one of `held`, and
the start of each of `held` is the start of a span at the end of its path. -/
structure Models (n : Node) (paths : Set (List Text)) (held : Set (List Text × Span)) : Prop where
  ordered : n.Ordered
  reach : ∀ c, (n.walk? c).isSome ↔ c ∈ paths
  sound : ∀ c m, n.walk? c = some m → ∀ s ∈ m.spans, (c, s) ∈ held
  complete : ∀ c s, (c, s) ∈ held → ∃ m, n.walk? c = some m ∧ s.start ∈ m.spans.map Span.start

/-- Puts a key before every path. -/
def under (key : Text) (held : Set (List Text × Span)) : Set (List Text × Span) :=
  {p | ∃ c, p.1 = key :: c ∧ (c, p.2) ∈ held}

namespace Models
variable {P P' : Set (List Text)} {H H' : Set (List Text × Span)}

theorem nil_mem (h : n.Models P H) : [] ∈ P := (h.reach []).1 rfl

theorem congr (h : n.Models P H) (hP : P = P') (hH : H = H') : n.Models P' H' := hP ▸ hH ▸ h

theorem empty : Node.empty.Models {[]} ∅ where
  ordered := ordered_empty
  reach c := by
    cases c with
    | nil => exact iff_of_true rfl rfl
    | cons key c => exact iff_of_false Bool.false_ne_true (List.cons_ne_nil key c)
  sound c m hm s hs := by
    cases c with
    | nil => cases hm; cases hs
    | cons key c => cases hm
  complete _ _ h := h.elim

theorem addSpan (h : n.Models P H) (s : Span) : (n.addSpan s).Models P (insert ([], s) H) where
  ordered := h.ordered.addSpan s
  reach c := by
    cases c with
    | nil => exact iff_of_true rfl h.nil_mem
    | cons key c => rw [walk?_addSpan_cons]; exact h.reach _
  sound c m hm t ht := by
    cases c with
    | nil =>
      cases hm
      rcases mem_of_mem_insertSpan ht with rfl | ht
      · exact .inl rfl
      · exact .inr (h.sound [] n rfl t ht)
    | cons key c => exact .inr (h.sound (key :: c) m hm t ht)
  complete c t ht := by
    cases c with
    | nil =>
      refine ⟨_, rfl, mem_starts_insertSpan.2 ?_⟩
      rcases ht with ht | ht
      · cases ht; exact .inl rfl
      · obtain ⟨m, hm, hs⟩ := h.complete [] t ht
        cases hm; exact .inr hs
    | cons key c =>
      rcases ht with ht | ht
      · cases ht
      · exact h.complete (key :: c) t ht

theorem single (h : n.Models P H) (key : Text) :
    (Node.single key n).Models (insert [] ((key :: ·) '' P)) (under key H) where
  ordered := h.ordered.single key
  reach c := by
    cases c with
    | nil => exact iff_of_true rfl (.inl rfl)
    | cons k c =>
      by_cases hk : k = key
      · subst hk; rw [walk?_single_self, h.reach]; simp
      · rw [walk?_single_of_ne hk]; simp [Ne.symm hk]
  sound c m hm t ht := by
    cases c with
    | nil => cases hm; cases ht
    | cons k c =>
      by_cases hk : k = key
      · subst hk; rw [walk?_single_self] at hm; exact ⟨c, rfl, h.sound c m hm t ht⟩
      · rw [walk?_single_of_ne hk] at hm; cases hm
  complete c t ht := by
    obtain ⟨c', rfl, hc'⟩ := ht
    rw [walk?_single_self]
    exact h.complete c' t hc'

theorem merge (ha : a.Models P H) (hb : b.Models P' H') : (a.merge b).Models (P ∪ P') (H ∪ H') where
  ordered := ha.ordered.merge hb.ordered
  reach c := by
    rw [walk?_merge a hb.ordered, Option.isSome_merge, Bool.or_eq_true, ha.reach, hb.reach]; rfl
  sound c m hm t ht := by
    rw [walk?_merge a hb.ordered, Option.merge_eq_some_iff] at hm
    rcases hm with ⟨hl, -⟩ | ⟨-, hr⟩ | ⟨l, r, hl, hr, rfl⟩
    · exact .inl (ha.sound c m hl t ht)
    · exact .inr (hb.sound c m hr t ht)
    · rw [spans_merge] at ht
      exact (mem_of_mem_foldl_insertSpan ht).imp (ha.sound c l hl t) (hb.sound c r hr t)
  complete c t ht := by
    rw [walk?_merge a hb.ordered]
    rcases ht with ht | ht
    · obtain ⟨l, hl, hs⟩ := ha.complete c t ht
      cases hr : b.walk? c with
      | none => exact ⟨l, by rw [hl]; rfl, hs⟩
      | some r => exact ⟨l.merge r, by rw [hl]; rfl, by
          rw [spans_merge]; exact mem_starts_foldl_insertSpan.2 (.inl hs)⟩
    · obtain ⟨r, hr, hs⟩ := hb.complete c t ht
      cases hl : a.walk? c with
      | none => exact ⟨r, by rw [hr]; rfl, hs⟩
      | some l => exact ⟨l.merge r, by rw [hr]; rfl, by
          rw [spans_merge]; exact mem_starts_foldl_insertSpan.2 (.inr hs)⟩

theorem mergeAt (ha : a.Models P H) (hn : n.Models P' H') (key : Text) :
    (a.mergeAt key n).Models (P ∪ (key :: ·) '' P') (H ∪ under key H') := by
  rw [mergeAt_eq_merge_single a key hn.ordered.sorted]
  refine (ha.merge (hn.single key)).congr ?_ rfl
  rw [Set.union_insert, Set.insert_eq_of_mem (.inl ha.nil_mem)]

end Models

end Node

end Index

end Excerpt
