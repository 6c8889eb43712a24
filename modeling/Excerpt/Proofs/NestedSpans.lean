import Excerpt.Proofs.PieceRules
import Excerpt.Proofs.SiblingOrder
import Mathlib.Data.List.Pairwise

/-!
# The spans of a declaration tree

The spans that the member walk reads off the syntax tree of a well-formed source are ordered and nested. `Spread` says
of a list of declarations that their starts lie in a range and ascend in the order of the walk, where only declarations
with one span share a start; what the nodes of a container yield is spread over its span (`spread_node`). `Nested` says
that spans lie inside those around them.
-/

namespace Excerpt

namespace Declaration
variable {ds es : List Declaration} {d : Declaration} {low high low' high' length : Nat}

theorem preorder_eq (d : Declaration) : d.preorder = d :: preorderAll d.children := by
  cases d; rfl

theorem preorderAll_append (ds es : List Declaration) : preorderAll (ds ++ es) = preorderAll ds ++ preorderAll es := by
  induction ds with
  | nil => rfl
  | cons d ds ih => rw [List.cons_append, preorderAll, ih, preorderAll, List.append_assoc]

theorem preorderAll_singleton (d : Declaration) : preorderAll [d] = d :: preorderAll d.children := by
  rw [preorderAll, preorderAll, List.append_nil, preorder_eq]

theorem mem_preorderAll_of_mem (h : d ∈ ds) : d ∈ preorderAll ds := by
  induction ds with
  | nil => cases h
  | cons e ds ih =>
    rw [preorderAll, preorder_eq]
    rcases List.mem_cons.1 h with rfl | h
    · exact List.mem_cons_self
    · exact List.mem_append_right _ (ih h)

theorem preorderAll_of_leaves (h : ∀ d ∈ ds, d.children = []) : preorderAll ds = ds := by
  induction ds with
  | nil => rfl
  | cons d ds ih =>
    obtain ⟨hd, hds⟩ := List.forall_mem_cons.1 h
    rw [preorderAll, preorder_eq, hd, ih hds]
    rfl

/-- The second declaration starts after the first one, or has the same span. -/
def Follows (d e : Declaration) : Prop := d.span.start < e.span.start ∨ d.span = e.span

/-- The declarations, and those inside them, start in the range from `low` to `high` and follow each other; none is
empty or ends after `length`. -/
structure Spread (low high length : Nat) (ds : List Declaration) : Prop where
  ordered : (preorderAll ds).Pairwise Follows
  start : ∀ d ∈ preorderAll ds, low ≤ d.span.start ∧ d.span.start < high
  stop : ∀ d ∈ preorderAll ds, d.span.start < d.span.stop ∧ d.span.stop ≤ length

namespace Spread

theorem nil : Spread low high length [] := ⟨.nil, by simp [preorderAll], by simp [preorderAll]⟩

theorem mono (h : Spread low high length ds) (hl : low' ≤ low) (hh : high ≤ high') : Spread low' high' length ds := by
  refine ⟨h.ordered, fun d hd => ?_, h.stop⟩
  have hstart := h.start d hd
  omega

theorem append (h : Spread low high length ds) (h' : Spread low high length es)
    (hlt : ∀ d ∈ preorderAll ds, ∀ e ∈ preorderAll es, d.span.start < e.span.start) :
    Spread low high length (ds ++ es) := by
  refine ⟨?_, ?_, ?_⟩ <;> rw [preorderAll_append]
  · exact List.pairwise_append.2 ⟨h.ordered, h'.ordered, fun d hd e he => .inl (hlt d hd e he)⟩
  · exact List.forall_mem_append.2 ⟨h.start, h'.start⟩
  · exact List.forall_mem_append.2 ⟨h.stop, h'.stop⟩

/-- A declaration whose members all start after it. -/
theorem singleton (hspan : d.span.start < d.span.stop) (hstop : d.span.stop ≤ length) (hlow : low ≤ d.span.start)
    (hhigh : d.span.start < high) (h : Spread low high length d.children)
    (hlt : ∀ e ∈ preorderAll d.children, d.span.start < e.span.start) : Spread low high length [d] := by
  refine ⟨?_, ?_, ?_⟩ <;> rw [preorderAll_singleton]
  · exact List.pairwise_cons.2 ⟨fun e he => .inl (hlt e he), h.ordered⟩
  · exact List.forall_mem_cons.2 ⟨⟨hlow, hhigh⟩, h.start⟩
  · exact List.forall_mem_cons.2 ⟨⟨hspan, hstop⟩, h.stop⟩

/-- Declarations without members that all have one span. -/
theorem replicate {span : Span} (hspan : span.start < span.stop) (hstop : span.stop ≤ length) (hlow : low ≤ span.start)
    (hhigh : span.start < high) (h : ∀ d ∈ ds, d.span = span ∧ d.children = []) : Spread low high length ds := by
  have hall : preorderAll ds = ds := preorderAll_of_leaves fun d hd => (h d hd).2
  refine ⟨?_, ?_, ?_⟩ <;> rw [hall]
  · exact List.pairwise_of_forall_mem_list fun d hd e he => .inr ((h d hd).1.trans (h e he).1.symm)
  · intro d hd
    rw [(h d hd).1]
    exact ⟨hlow, hhigh⟩
  · intro d hd
    rw [(h d hd).1]
    exact ⟨hspan, hstop⟩

theorem start_le (h : Spread low high length ds) : ((preorderAll ds).map (·.span.start)).Pairwise (· ≤ ·) := by
  refine List.pairwise_map.2 (h.ordered.imp ?_)
  intro d e hde
  rcases hde with hlt | heq
  · exact Nat.le_of_lt hlt
  · rw [heq]

theorem span_eq (h : Spread low high length ds) : Index.StartsFixSpans ds := by
  let R : Declaration → Declaration → Prop := fun d e => d.span.start = e.span.start → d.span = e.span
  have : Std.Symm R := ⟨fun d e hde hstart => (hde hstart.symm).symm⟩
  have hpairs : (preorderAll ds).Pairwise R := by
    refine h.ordered.imp ?_
    intro d e hde hstart
    rcases hde with hlt | heq
    · omega
    · exact heq
  intro d hd e he
  exact hpairs.forall_of_forall (fun d _ _ => rfl) hd he

theorem child (h : Spread low high length ds) (hd : d ∈ ds) {child : Declaration} (hc : child ∈ d.children) :
    d.span.start ≤ child.span.start ∧ child.span.stop ≤ length := by
  obtain ⟨before, after, rfl⟩ := List.append_of_mem hd
  have hall : preorderAll (before ++ d :: after) =
      preorderAll before ++ (d :: preorderAll d.children ++ preorderAll after) := by
    rw [preorderAll_append, preorderAll, preorder_eq]
  have hmem : child ∈ preorderAll d.children ++ preorderAll after :=
    List.mem_append_left _ (mem_preorderAll_of_mem hc)
  have hordered := h.ordered
  rw [hall] at hordered
  obtain ⟨-, hordered, -⟩ := List.pairwise_append.1 hordered
  have hstop := h.stop child (by rw [hall]; exact List.mem_append_right _ (List.mem_cons_of_mem _ hmem))
  refine ⟨?_, hstop.2⟩
  rcases (List.pairwise_cons.1 hordered).1 child hmem with hlt | heq
  · exact Nat.le_of_lt hlt
  · rw [heq]

end Spread

/-- The spans of the members of a declaration lie inside its own, here and further inside. -/
def Nested (ds : List Declaration) : Prop :=
  ∀ d ∈ preorderAll ds, ∀ child ∈ d.children, d.span.start ≤ child.span.start ∧ child.span.stop ≤ d.span.stop

namespace Nested

theorem nil : Nested [] := by simp [Nested, preorderAll]

theorem append (h : Nested ds) (h' : Nested es) : Nested (ds ++ es) := by
  unfold Nested
  rw [preorderAll_append]
  exact List.forall_mem_append.2 ⟨h, h'⟩

theorem singleton (h : Nested d.children)
    (hd : ∀ child ∈ d.children, d.span.start ≤ child.span.start ∧ child.span.stop ≤ d.span.stop) : Nested [d] := by
  unfold Nested
  rw [preorderAll_singleton]
  exact List.forall_mem_cons.2 ⟨hd, h⟩

theorem flatMap {α : Type} {f : α → List Declaration} {l : List α} (h : ∀ a ∈ l, Nested (f a)) :
    Nested (l.flatMap f) := by
  induction l with
  | nil => exact .nil
  | cons a l ih =>
    obtain ⟨ha, hl⟩ := List.forall_mem_cons.1 h
    exact ha.append (ih hl)

theorem of_leaves (h : ∀ d ∈ ds, d.children = []) : Nested ds := by
  intro d hd child hc
  rw [preorderAll_of_leaves h] at hd
  rw [h d hd] at hc
  cases hc

end Nested

theorem mem_preorderAll_flatMap {α : Type} {f : α → List Declaration} {l : List α} :
    d ∈ preorderAll (l.flatMap f) ↔ ∃ a ∈ l, d ∈ preorderAll (f a) := by
  induction l with
  | nil => simp [preorderAll]
  | cons a l ih => simp [preorderAll_append, ih]

end Declaration

namespace Index

/-- If starts fix spans, the span of a declaration is found under every path that addresses it. -/
theorem mem_spans_of_addresses {tree : DeclarationTree} (h : StartsFixSpans tree.declarations) {path : List Text}
    {e : List Text × Declaration} (hne : path ≠ []) (he : e ∈ tree.chains) (ha : Addresses path e) :
    ∃ node, (build tree).root.walk? path = some node ∧ e.2.span ∈ node.spans := by
  have hmem : ∀ e ∈ tree.chains, e.2 ∈ Declaration.preorderAll tree.declarations := fun e he => by
    rw [← Declaration.map_snd_chainsAll]
    exact List.mem_map_of_mem he
  obtain ⟨node, hn, s, hs, hstart⟩ := exists_mem_spans_of_addresses tree hne he ha
  obtain ⟨f, hf, -, hspan⟩ := exists_addresses_of_mem_spans tree hne hn hs
  have heq : e.2.span = s := by
    rw [← hspan] at hstart ⊢
    exact h e.2 (hmem e he) f.2 (hmem f hf) hstart.symm
  exact ⟨node, hn, heq ▸ hs⟩

end Index

namespace Source
open Declaration (Spread Nested)

namespace Members
variable {source : Text} {node : Node} {nodes : List Node} {low high : Nat}

theorem spread_flatMap (h : ∀ node ∈ nodes, Spread node.span.start node.span.stop source.byteLength
      (declarations source node))
    (hin : ∀ node ∈ nodes, low ≤ node.span.start ∧ node.span.stop ≤ high)
    (hap : nodes.Pairwise fun a b => a.span.stop ≤ b.span.start) :
    Spread low high source.byteLength (nodes.flatMap (declarations source)) := by
  induction nodes with
  | nil => exact .nil
  | cons node rest ih =>
    obtain ⟨hnode, hrest⟩ := List.forall_mem_cons.1 h
    obtain ⟨hinnode, hinrest⟩ := List.forall_mem_cons.1 hin
    obtain ⟨hbefore, haprest⟩ := List.pairwise_cons.1 hap
    rw [List.flatMap_cons]
    refine (hnode.mono hinnode.1 hinnode.2).append (ih hrest hinrest haprest) ?_
    intro d hd e he
    obtain ⟨later, hlater, he⟩ := Declaration.mem_preorderAll_flatMap.1 he
    calc d.span.start < node.span.stop := (hnode.start d hd).2
      _ ≤ later.span.start := hbefore later hlater
      _ ≤ e.span.start := ((hrest later hlater).start e he).1

theorem spread_members (hp : ∀ node ∈ nodes, node.Proper)
    (h : ∀ node ∈ nodes, Spread node.span.start node.span.stop source.byteLength (declarations source node))
    (hin : ∀ node ∈ nodes, low ≤ node.span.start ∧ node.span.stop ≤ high)
    (hap : nodes.Pairwise fun a b => a.span.stop ≤ b.span.start) (hhigh : high ≤ source.byteLength) :
    Spread low high source.byteLength (members source nodes) := by
  rcases members_cases source fun node hm => (hp node hm).line with
    heq | ⟨before, line, rest, rfl, hkind, heq⟩ <;> rw [heq]
  · exact spread_flatMap h hin hap
  · obtain ⟨hbefore, hline, hrest⟩ := List.forall_mem_append.1 h |>.imp_right List.forall_mem_cons.1
    obtain ⟨hinbefore, hinline, hinrest⟩ := List.forall_mem_append.1 hin |>.imp_right List.forall_mem_cons.1
    obtain ⟨hapbefore, haprest, hcross⟩ := List.pairwise_append.1 hap
    obtain ⟨hafter, haprest⟩ := List.pairwise_cons.1 haprest
    have hnonempty : line.span.start < line.span.stop := by
      refine (hp line (by simp)).nonempty ?_
      rw [hkind]
      rfl
    -- what stands before the line starts before it, and what follows starts after it
    have hlower : Spread low line.span.start source.byteLength (before.flatMap (declarations source)) :=
      spread_flatMap hbefore (fun b hb => ⟨(hinbefore b hb).1, hcross b hb line List.mem_cons_self⟩) hapbefore
    have hupper : Spread line.span.stop high source.byteLength (rest.flatMap (declarations source)) :=
      spread_flatMap hrest (fun r hr => ⟨hafter r hr, (hinrest r hr).2⟩) haprest
    have hspace : Spread line.span.start high source.byteLength
        [lineNamespace source line (rest.flatMap (declarations source))] := by
      refine .singleton ?_ (Nat.le_refl _) (Nat.le_refl _) ?_ (hupper.mono (by omega) (Nat.le_refl _)) ?_
      · show line.span.start < source.byteLength
        omega
      · show line.span.start < high
        omega
      · intro e he
        have hstart := (hupper.start e he).1
        show line.span.start < e.span.start
        omega
    refine (hlower.mono (Nat.le_refl _) (by omega)).append (hspace.mono hinline.1 (Nat.le_refl _)) ?_
    intro d hd e he
    have hd := (hlower.start d hd).2
    have he := (hspace.start e he).1
    omega

theorem Yields.spread {ds : List Declaration} (hy : Yields source node ds) (hp : node.Proper)
    (hstop : node.span.stop ≤ source.byteLength)
    (hbody : ∀ child ∈ node.children,
      Spread child.span.start child.span.stop source.byteLength (members source child.children))
    (hmembers : Spread node.span.start node.span.stop source.byteLength (members source node.children)) :
    Spread node.span.start node.span.stop source.byteLength ds := by
  cases hy with
  | nothing => exact .nil
  | leaves hk h => exact .replicate (hp.nonempty hk) hstop (Nat.le_refl _) (hp.nonempty hk) h
  | @branch d body hk hb hbk hs hc =>
    have hnonempty := hp.nonempty hk
    have hinside := hp.inside body hb
    have hafter := hp.body hk body hb hbk
    have hinner := hbody body hb
    rw [← hc] at hinner
    rw [← hs] at hnonempty hinside hafter hstop ⊢
    refine .singleton hnonempty hstop (Nat.le_refl _) hnonempty (hinner.mono hinside.1 hinside.2) ?_
    intro e he
    have hstart := (hinner.start e he).1
    omega
  | through => exact hmembers

/-- What a node of a well-formed tree yields is spread over its span, and so are the members of a container. -/
theorem spread_node (h : node.Everywhere Node.Proper) (hstop : node.span.stop ≤ source.byteLength) :
    Spread node.span.start node.span.stop source.byteLength (declarations source node) ∧
      Spread node.span.start node.span.stop source.byteLength (members source node.children) := by
  induction h with
  | @mk node hp hc ih =>
    have hchild : ∀ child ∈ node.children,
        Spread child.span.start child.span.stop source.byteLength (declarations source child) ∧
          Spread child.span.start child.span.stop source.byteLength (members source child.children) := by
      intro child hm
      have hinside := hp.inside child hm
      exact ih child hm (by omega)
    have hmembers : Spread node.span.start node.span.stop source.byteLength (members source node.children) :=
      spread_members (fun child hm => (hc child hm).here) (fun child hm => (hchild child hm).1) hp.inside hp.apart hstop
    exact ⟨(yields_declarations hp).spread hp hstop (fun child hm => (hchild child hm).2) hmembers, hmembers⟩

/-! ### Spans inside each other -/

theorem Yields.stop_le {ds : List Declaration} (hy : Yields source node ds)
    (hmembers : ∀ d ∈ members source node.children, d.span.stop ≤ node.span.stop) :
    ∀ d ∈ ds, d.span.stop ≤ node.span.stop := by
  cases hy with
  | nothing => exact fun d hd => absurd hd List.not_mem_nil
  | leaves _ h => exact fun d hd => by rw [(h d hd).1]
  | branch _ _ _ hs _ => exact fun d hd => by rw [List.mem_singleton.1 hd, hs]
  | through => exact hmembers

/-- Without a namespace for the rest of the file inside it, a node yields nothing that ends after it. -/
theorem stop_le_node (h : node.Everywhere Node.Proper)
    (hfree : ∀ child ∈ node.children, child.Everywhere fun inner => inner.kind ≠ .namespaceLine) :
    (∀ d ∈ declarations source node, d.span.stop ≤ node.span.stop) ∧
      ∀ d ∈ members source node.children, d.span.stop ≤ node.span.stop := by
  induction h with
  | @mk node hp hc ih =>
    have hmembers : ∀ d ∈ members source node.children, d.span.stop ≤ node.span.stop := by
      rcases members_cases source fun child hm => (hc child hm).here.line with
        heq | ⟨before, line, rest, hsplit, hkind, -⟩
      · intro d hd
        rw [heq] at hd
        obtain ⟨child, hm, hd⟩ := List.mem_flatMap.1 hd
        have hinside := hp.inside child hm
        have hstop := (ih child hm (hfree child hm).children).1 d hd
        omega
      · exact absurd hkind (hfree line (by simp [hsplit])).here
    exact ⟨(yields_declarations hp).stop_le hmembers, hmembers⟩

theorem Yields.nested {ds : List Declaration} (hy : Yields source node ds)
    (hspread : Spread node.span.start node.span.stop source.byteLength ds)
    (hstop : node.kind.isDeclaration → ∀ body ∈ node.children, body.kind.isBody → ∀ d ∈ members source body.children,
      d.span.stop ≤ node.span.stop)
    (hbody : ∀ child ∈ node.children, Nested (members source child.children))
    (hmembers : Nested (members source node.children)) : Nested ds := by
  cases hy with
  | nothing => exact .nil
  | leaves _ h => exact .of_leaves fun d hd => (h d hd).2
  | @branch d body hk hb hbk hs hc =>
    refine .singleton (by rw [hc]; exact hbody body hb) fun child hm => ⟨?_, ?_⟩
    · exact (hspread.child (List.mem_singleton_self d) hm).1
    · rw [hs]
      exact hstop hk body hb hbk child (hc ▸ hm)
  | through => exact hmembers

/-- What a node of a well-formed tree yields is nested, if namespaces for the rest of the file stand outermost. -/
theorem nested_node (h : node.Everywhere Node.Proper) (htop : node.Everywhere Node.Outermost)
    (hstop : node.span.stop ≤ source.byteLength) :
    Nested (declarations source node) ∧ Nested (members source node.children) := by
  induction h with
  | @mk node hp hc ih =>
    have hspread : Spread node.span.start node.span.stop source.byteLength (declarations source node) ∧
        Spread node.span.start node.span.stop source.byteLength (members source node.children) :=
      spread_node (.mk hp hc) hstop
    have hchild : ∀ child ∈ node.children,
        Nested (declarations source child) ∧ Nested (members source child.children) := by
      intro child hm
      have hinside := hp.inside child hm
      exact ih child hm (htop.children child hm) (by omega)
    have hmembers : Nested (members source node.children) := by
      rcases members_cases source fun child hm => (hc child hm).here.line with
        heq | ⟨before, line, rest, hsplit, hkind, heq⟩
      · rw [heq]
        exact .flatMap fun child hm => (hchild child hm).1
      · have hspace :
            lineNamespace source line (rest.flatMap (declarations source)) ∈ members source node.children := by
          rw [heq]
          simp
        rw [hsplit] at hchild
        rw [heq]
        refine (Nested.flatMap fun child hm => (hchild child (by simp [hm])).1).append ?_
        -- the namespace ends where the source does
        exact .singleton (.flatMap fun child hm => (hchild child (by simp [hm])).1) fun d hd =>
          hspread.2.child hspace hd
    have hinner : node.kind.isDeclaration → ∀ body ∈ node.children, body.kind.isBody →
        ∀ d ∈ members source body.children, d.span.stop ≤ node.span.stop := by
      intro hk body hb hbk d hd
      have hinside := hp.inside body hb
      have hbody := (stop_le_node (hc body hb) (htop.here hk body hb hbk).children).2 d hd
      omega
    exact ⟨(yields_declarations hp).nested hspread.1 hinner (fun child hm => (hchild child hm).2) hmembers, hmembers⟩

/-- The declarations of a well-formed source lie in the source and start one after the other in the order of the walk.
Only declarations with one span share a start, so the index keeps the span of every declaration under each path that
addresses it. Members lie inside what they are members of, also of a namespace that runs to the end of the file, as long
as such a namespace stands at the top level or in conditional regions there; it does so in every tree of the grammar. -/
theorem ofNode_spans (source : Text) (file : Node) (h : file.Everywhere Node.Proper)
    (hstop : file.span.stop ≤ source.byteLength) :
    let tree := ofNode source file
    let all := Declaration.preorderAll tree.declarations
    (∀ d ∈ all, d.span.start ≤ d.span.stop ∧ d.span.stop ≤ source.byteLength) ∧
      (file.Everywhere Node.Outermost → ∀ d ∈ all, ∀ child ∈ d.children,
        d.span.start ≤ child.span.start ∧ child.span.stop ≤ d.span.stop) ∧
      (Grammar.file? source = some file → file.Everywhere Node.Outermost) ∧
      (all.map (·.span.start)).Pairwise (· ≤ ·) ∧
      (∀ d ∈ all, ∀ e ∈ all, d.span.start = e.span.start → d.span = e.span) ∧
      ∀ e ∈ tree.chains, ∀ path ≠ [], Index.Addresses path e →
        ∃ node, (Index.build tree).root.walk? path = some node ∧ e.2.span ∈ node.spans := by
  intro tree all
  have hspread : Spread file.span.start file.span.stop source.byteLength tree.declarations := (spread_node h hstop).2
  refine ⟨fun d hd => ?_, fun htop => (nested_node h htop hstop).2, Grammar.outermost_of_file?, hspread.start_le,
    hspread.span_eq, ?_⟩
  · obtain ⟨hlt, hle⟩ := hspread.stop d hd
    exact ⟨Nat.le_of_lt hlt, hle⟩
  · exact fun e he path hne ha => Index.mem_spans_of_addresses hspread.span_eq hne he ha

/-- A source with a namespace for the rest of the file in a conditional region, two fields that share their span, and
an enumeration after the region. -/
def conditional : Text := "#if X\nnamespace N;\nclass C \x7b int a, b; \x7d\n#endif\nenum E \x7b A \x7d".toList

/-- Its syntax tree. -/
def conditionalFile : Node :=
  .mk .file ⟨0, 60⟩
    [.mk .region ⟨0, 47⟩
      [.mk .namespaceLine ⟨6, 18⟩ [.leaf .name ⟨16, 17⟩],
        .mk .classDecl ⟨19, 40⟩
          [.leaf .name ⟨25, 26⟩,
            .mk .memberList ⟨27, 40⟩
              [.mk .field ⟨29, 38⟩
                [.mk .declarators ⟨29, 37⟩
                  [.mk .declarator ⟨33, 34⟩ [.leaf .name ⟨33, 34⟩],
                    .mk .declarator ⟨36, 37⟩ [.leaf .name ⟨36, 37⟩]]]]]],
      .mk .enumDecl ⟨48, 60⟩
        [.leaf .name ⟨53, 54⟩, .mk .enumMemberList ⟨55, 60⟩ [.mk .enumMember ⟨57, 58⟩ [.leaf .name ⟨57, 58⟩]]]]

theorem ofNode_spans_conditional :
    conditionalFile.Everywhere Node.Proper ∧ conditionalFile.Everywhere Node.Outermost ∧
      (Declaration.preorderAll (ofNode conditional conditionalFile).declarations).map (·.span) =
        [⟨6, 60⟩, ⟨19, 40⟩, ⟨29, 38⟩, ⟨29, 38⟩, ⟨48, 60⟩, ⟨57, 58⟩] ∧
      ∀ d ∈ Declaration.preorderAll (ofNode conditional conditionalFile).declarations, ∀ child ∈ d.children,
        d.span.start ≤ child.span.start ∧ child.span.stop ≤ d.span.stop := by
  have hproper : conditionalFile.Everywhere Node.Proper := by
    simp [conditionalFile, Node.leaf, Node.Everywhere.mk_iff, Node.proper_iff, Node.children, Node.span, Node.kind,
      NodeKind.isDeclaration, NodeKind.isBody]
  have htop : conditionalFile.Everywhere Node.Outermost := by
    simp [conditionalFile, Node.leaf, Node.Everywhere.mk_iff, Node.Outermost, Node.children, Node.kind,
      NodeKind.isDeclaration]
  have hstop : conditionalFile.span.stop ≤ conditional.byteLength := by decide
  exact ⟨hproper, htop, rfl, (ofNode_spans conditional conditionalFile hproper hstop).2.1 htop⟩

end Members

end Source

end Excerpt
