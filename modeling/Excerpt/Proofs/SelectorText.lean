import Excerpt.Backend.Standard
import Excerpt.Index.Lookup
import Excerpt.Proofs.IndexContents
import Mathlib.Data.List.Infix

/-!
# The text of a selector

`Selector.appendAll` writes keys one after the other and `Selector.chunks` reads them back. They are inverse on
the keys that a selector can spell (`chunks_appendAll`): reading such a key only adds to the chunk at hand
(`keep?`), up to a depth of zero, and what starts the next key also ends the chunk.

The keys of a declaration are of this kind when its name has none of the characters that the reader looks for, and
the brackets of its types are balanced (`Declaration.Spelled`). Every selector that is listed for a file of such
declarations is then found again, and so is every trailing part of it.
-/

namespace Excerpt

namespace Selector
variable {c : Char} {t u key chunk rest path : Text} {n depth : Nat}

/-- The depth after a character. -/
def nextDepth (depth : Nat) (c : Char) : Nat :=
  if c ∈ ['(', '[', '{', '<'] then depth + 1 else if c ∈ [')', ']', '}', '>'] then depth - 1 else depth

/-- The character only adds to the chunk at hand. -/
def Stays (depth : Nat) (c : Char) : Prop := ¬ Text.isBlank c ∧ (depth = 0 → c ≠ '.' ∧ c ≠ '(' ∧ c ≠ '[')

instance (depth : Nat) (c : Char) : Decidable (Stays depth c) := inferInstanceAs (Decidable (_ ∧ _))

/-- The depth after a text of which every character only adds to the chunk at hand. -/
def keep? (depth : Nat) : Text → Option Nat
  | [] => some depth
  | c :: t => if Stays depth c then keep? (nextDepth depth c) t else none

theorem keep?_cons (h : Stays depth c) : keep? depth (c :: t) = keep? (nextDepth depth c) t := if_pos h

theorem keep?_append (h : keep? depth t = some n) : keep? depth (t ++ u) = keep? n u := by
  induction t generalizing depth with
  | nil => rw [List.nil_append, Option.some.inj h]
  | cons c t ih =>
    rw [keep?] at h
    split at h
    next hc => rw [List.cons_append, keep?_cons hc, ih h]
    next => cases h

theorem chunksFrom_cons (h : Stays depth c) :
    chunksFrom depth chunk (c :: rest) = chunksFrom (nextDepth depth c) (chunk ++ [c]) rest := by
  have hdot : ¬ (c = '.' ∧ depth = 0) := fun ⟨hc, hd⟩ => (h.2 hd).1 hc
  have hopen : ¬ ((c = '(' ∨ c = '[') ∧ depth = 0) := fun ⟨hc, hd⟩ => hc.elim (h.2 hd).2.1 (h.2 hd).2.2
  rw [chunksFrom, if_neg hdot, if_neg hopen, if_neg h.1, nextDepth]
  split
  · rfl
  · split <;> rfl

theorem chunksFrom_append (h : keep? depth t = some n) :
    chunksFrom depth chunk (t ++ rest) = chunksFrom n (chunk ++ t) rest := by
  induction t generalizing depth chunk with
  | nil => rw [List.nil_append, List.append_nil, Option.some.inj h]
  | cons c t ih =>
    rw [keep?] at h
    split at h
    next hc => rw [List.cons_append, chunksFrom_cons hc, ih h, List.append_assoc, List.singleton_append]
    next => cases h

/-- A key that a selector can spell. -/
inductive IsKey : Text → Prop where
  | plain {t : Text} : t ≠ [] → keep? 0 t = some 0 → IsKey t
  | bracketed {c : Char} {t : Text} : c = '(' ∨ c = '[' → keep? 1 t = some 0 → IsKey (c :: t)

theorem IsKey.ne_nil (h : IsKey key) : key ≠ [] := by
  cases h with
  | plain hne _ => exact hne
  | bracketed _ _ => exact List.cons_ne_nil _ _

/-- The start of a key, after which the reader is at the given depth. -/
inductive Begins : Nat → Text → Prop where
  | plain {n : Nat} {t : Text} : keep? 0 t = some n → Begins n t
  | bracketed {n : Nat} {c : Char} {t : Text} : c = '(' ∨ c = '[' → keep? 1 t = some n → Begins n (c :: t)

theorem IsKey.begins (h : IsKey key) : Begins 0 key := by
  cases h with
  | plain _ hkeep => exact .plain hkeep
  | bracketed hc hkeep => exact .bracketed hc hkeep

theorem isBracketed_eq_false (h : keep? 0 t = some n) : isBracketed t = false := by
  cases t with
  | nil => rfl
  | cons c t =>
    rw [keep?] at h
    split at h
    next hc =>
      unfold isBracketed
      split
      next heq => cases heq; exact absurd rfl (hc.2 rfl).2.1
      next heq => cases heq; exact absurd rfl (hc.2 rfl).2.2
      next => rfl
    next => cases h

theorem isBracketed_cons (h : c = '(' ∨ c = '[') : isBracketed (c :: t) = true := by
  rcases h with rfl | rfl <;> rfl

theorem chunksFrom_bracket (h : c = '(' ∨ c = '[') :
    chunksFrom 0 chunk (c :: rest) = flush chunk ++ chunksFrom 1 [c] rest := by
  rcases h with rfl | rfl <;> simp [chunksFrom]

theorem chunksFrom_dot : chunksFrom 0 chunk ('.' :: rest) = flush chunk ++ chunksFrom 0 [] rest := by
  simp [chunksFrom]

theorem flush_of_ne_nil (h : chunk ≠ []) : flush chunk = [chunk] := by
  rw [flush, if_neg fun he => h (List.isEmpty_iff.1 he)]

/-- Reading the path gives the keys, of which the last is still open. -/
structure Reads (path : Text) (keys : List Text) : Prop where
  nil : path = [] → keys = []
  ne_nil : ∀ k ∈ keys, k ≠ []
  chunks : ∀ rest, chunksFrom 0 [] (path ++ rest) = keys.dropLast ++ chunksFrom 0 (keys.getLastD []) rest

namespace Reads
variable {keys : List Text}

theorem empty : Reads [] [] := ⟨fun _ => rfl, fun _ hk => absurd hk List.not_mem_nil, fun _ => rfl⟩

theorem append_flush (h : Reads path keys) : keys.dropLast ++ flush (keys.getLastD []) = keys := by
  rcases List.eq_nil_or_concat keys with rfl | ⟨l, k, rfl⟩
  · rfl
  · have hk := h.ne_nil k (by simp)
    rw [List.concat_eq_append, List.dropLast_concat, List.getLastD_concat, flush_of_ne_nil hk]

theorem chunks_eq (h : Reads path keys) : Selector.chunks path = keys := by
  have hc := h.chunks []
  rwa [List.append_nil, chunksFrom, h.append_flush] at hc

/-- What follows ends the last key, whether a dot or a bracket of its own separates the two. -/
theorem chunks_append (h : Reads path keys) (hk : Begins n key) (rest : Text) :
    chunksFrom 0 [] (Selector.append path key ++ rest) = keys ++ chunksFrom n key rest := by
  cases hk with
  | plain hkeep =>
    by_cases hp : path = []
    · rw [h.nil hp, hp, Selector.append, if_pos (by rfl), List.nil_append, chunksFrom_append hkeep]
      rfl
    · have hif : ¬ (path.isEmpty || isBracketed key) = true := by
        simp [isBracketed_eq_false hkeep, hp]
      rw [Selector.append, if_neg hif, List.append_assoc, h.chunks, List.cons_append, chunksFrom_dot,
        chunksFrom_append hkeep, ← List.append_assoc, h.append_flush]
      rfl
  | @bracketed c t hc hkeep =>
    rw [Selector.append, if_pos (by simp [isBracketed_cons hc]), List.append_assoc, h.chunks, List.cons_append,
      chunksFrom_bracket hc, chunksFrom_append hkeep, ← List.append_assoc, h.append_flush]
    rfl

theorem append (h : Reads path keys) (hk : IsKey key) : Reads (Selector.append path key) (keys ++ [key]) := by
  have hne : ∀ k ∈ keys ++ [key], k ≠ [] := by
    intro k hk'
    rcases List.mem_append.1 hk' with hk' | hk'
    · exact h.ne_nil k hk'
    · rw [List.mem_singleton.1 hk']; exact hk.ne_nil
  refine ⟨fun hp => ?_, hne, fun rest => ?_⟩
  · unfold Selector.append at hp
    split at hp
    · exact absurd (List.append_eq_nil_iff.1 hp).2 hk.ne_nil
    · exact absurd (List.append_eq_nil_iff.1 hp).2 (List.cons_ne_nil _ _)
  · rw [List.dropLast_concat, List.getLastD_concat]
    exact h.chunks_append hk.begins rest

theorem appendAll (h : Reads path keys) {more : List Text} (hk : ∀ k ∈ more, IsKey k) :
    Reads (Selector.appendAll path more) (keys ++ more) := by
  induction more generalizing path keys with
  | nil => rwa [List.append_nil]
  | cons key more ih =>
    have hr := ih (h.append (hk key (List.mem_cons_self ..))) fun k hk' => hk k (List.mem_cons_of_mem _ hk')
    rwa [List.append_assoc] at hr

end Reads

/-- Writing keys and reading them back gives the keys. -/
theorem chunks_appendAll {keys : List Text} (h : ∀ k ∈ keys, IsKey k) : chunks (appendAll [] keys) = keys := by
  have hr := (Reads.empty.appendAll h).chunks_eq
  rwa [List.nil_append] at hr

/-- How far a character opens or closes brackets. -/
def weight (c : Char) : Int :=
  if c ∈ ['(', '[', '{', '<'] then 1 else if c ∈ [')', ']', '}', '>'] then -1 else 0

/-- The number of brackets that a text opens, less those that it closes. -/
def level : Text → Int
  | [] => 0
  | c :: t => weight c + level t

/-- Brackets of any kind are closed only after they are opened, and all are closed in the end. -/
def Balanced (t : Text) : Prop := (∀ p, p <+: t → 0 ≤ level p) ∧ level t = 0

instance (t : Text) : Decidable (Balanced t) :=
  decidable_of_iff ((∀ p ∈ t.inits, 0 ≤ level p) ∧ level t = 0) (by simp [Balanced])

@[simp] theorem level_nil : level [] = 0 := rfl

@[simp] theorem level_cons (c : Char) (t : Text) : level (c :: t) = weight c + level t := rfl

theorem nextDepth_eq {m : Nat} (h : (m : Int) = n + weight c) : nextDepth (n + 1) c = m + 1 := by
  unfold weight at h
  unfold nextDepth
  split <;> rename_i h1
  · rw [if_pos h1] at h; omega
  · rw [if_neg h1] at h
    split <;> rename_i h2
    · rw [if_pos h2] at h; omega
    · rw [if_neg h2] at h; omega

/-- Within brackets that stay open, a text without blank characters only adds to the chunk at hand. -/
theorem keep?_of_level {m : Nat} (hb : ∀ c ∈ t, ¬ Text.isBlank c) (hp : ∀ p, p <+: t → 0 ≤ n + level p)
    (hm : (m : Int) = n + level t) : keep? (n + 1) t = some (m + 1) := by
  induction t generalizing n with
  | nil => rw [level_nil] at hm; rw [keep?, show m = n by omega]
  | cons c t ih =>
    have hstay : Stays (n + 1) c := ⟨hb c (List.mem_cons_self ..), fun h => by cases h⟩
    have hc : 0 ≤ n + weight c := by
      have := hp [c] ((List.prefix_cons_inj c).2 List.nil_prefix)
      rwa [level_cons, level_nil, Int.add_zero] at this
    obtain ⟨k, hk⟩ := Int.eq_ofNat_of_zero_le hc
    rw [keep?_cons hstay, nextDepth_eq hk.symm]
    refine ih (fun c' hc' => hb c' (List.mem_cons_of_mem _ hc')) (fun p hpt => ?_) ?_
    · have := hp (c :: p) ((List.prefix_cons_inj c).2 hpt)
      rw [level_cons] at this; omega
    · rw [level_cons] at hm; omega

theorem keep?_of_balanced (hb : ∀ c ∈ t, ¬ Text.isBlank c) (h : Balanced t) : keep? (n + 1) t = some (n + 1) :=
  keep?_of_level hb (fun p hp => by have := h.1 p hp; omega) (by rw [h.2, Int.add_zero])

/-- A name without the characters that the reader looks for. -/
def Plain (name : Text) : Prop :=
  name ≠ [] ∧ ∀ c ∈ name, ¬ Text.isBlank c ∧ c ∉ ['.', '(', ')', '[', ']', '{', '}', '<', '>']

-- by the characters of the name, not by all characters there are
instance (name : Text) : Decidable (Plain name) := @instDecidableAnd _ _ inferInstance (List.decidableBAll _ name)

theorem nextDepth_of_not_mem (h : c ∉ ['.', '(', ')', '[', ']', '{', '}', '<', '>']) :
    nextDepth depth c = depth := by
  simp only [List.mem_cons, List.not_mem_nil, or_false, not_or] at h
  simp [nextDepth, h]

theorem Plain.keep? (h : Plain t) : keep? 0 t = some 0 := by
  obtain ⟨-, h⟩ := h
  induction t with
  | nil => rfl
  | cons c t ih =>
    obtain ⟨hb, hc⟩ := h c (List.mem_cons_self ..)
    have hstay : Stays 0 c := ⟨hb, fun _ => ⟨fun h => hc (by simp [h]), fun h => hc (by simp [h]),
      fun h => hc (by simp [h])⟩⟩
    rw [keep?_cons hstay, nextDepth_of_not_mem hc]
    exact ih fun c' hc' => h c' (List.mem_cons_of_mem _ hc')

theorem Plain.trim (h : Plain t) : Text.trim t = t := Text.trim_of_not_isBlank fun c hc => (h.2 c hc).1

end Selector

namespace Text

theorem not_isBlank_of_mem_squeeze {c : Char} {t : Text} (h : c ∈ squeeze t) : ¬ isBlank c := by
  have := (List.mem_filter.1 h).2
  simpa using this

end Text

namespace Declaration
open Selector
variable {d : Declaration} {items : List Text} {name : Text}

theorem keep?_joinTypes (h : ∀ t ∈ items, Balanced (Text.squeeze t)) : keep? 1 (joinTypes items) = some 1 := by
  have hone : ∀ t ∈ items, keep? 1 (Text.squeeze t) = some 1 := fun t ht =>
    keep?_of_balanced (fun _ => Text.not_isBlank_of_mem_squeeze) (h t ht)
  unfold joinTypes
  induction items with
  | nil => rfl
  | cons t items ih =>
    have ht := hone t (List.mem_cons_self ..)
    cases items with
    | nil => exact ht
    | cons u items =>
      have hu := ih (fun v hv => h v (List.mem_cons_of_mem _ hv)) fun v hv => hone v (List.mem_cons_of_mem _ hv)
      rw [List.map_cons, List.map_cons, Text.joinWith, ← List.map_cons, List.append_assoc, keep?_append ht]
      · rw [keep?_append (show keep? 1 [','] = some 1 from rfl), hu]
      · simp

theorem keep?_brackets {close : Char} (hclose : close ∈ [')', ']', '}'])
    (h : ∀ t ∈ items, Balanced (Text.squeeze t)) : keep? 1 (joinTypes items ++ [close]) = some 0 := by
  rw [keep?_append (keep?_joinTypes h)]
  simp only [List.mem_cons, List.not_mem_nil, or_false] at hclose
  rcases hclose with rfl | rfl | rfl <;> rfl

theorem isKey_genericName (hn : Plain name) (h : ∀ t ∈ items, Balanced (Text.squeeze t)) :
    IsKey (genericName name items) := by
  unfold genericName
  split
  · exact .plain hn.1 hn.keep?
  · refine .plain (by simp) ?_
    rw [List.append_assoc, keep?_append hn.keep?]
    exact keep?_brackets (by simp) h

/-- The selector of the declaration can be spelled: its name, or each part of the name of a namespace, is plain,
and the brackets of its types are balanced. The keys of indexers, constructors and destructors have no name. -/
structure Spelled (d : Declaration) : Prop where
  name : d.kind ∉ [.namespaceDecl, .indexer, .constructor, .destructor] → Plain d.name
  parts : d.kind = .namespaceDecl → ∀ part ∈ d.name.split '.', Plain part
  typeParameters : ∀ t ∈ d.typeParameters, Balanced (Text.squeeze t)
  parameterTypes : ∀ t ∈ d.parameterTypes, Balanced (Text.squeeze t)

instance (d : Declaration) : Decidable d.Spelled :=
  decidable_of_iff (_ ∧ _ ∧ _ ∧ _)
    ⟨fun ⟨h₁, h₂, h₃, h₄⟩ => ⟨h₁, h₂, h₃, h₄⟩, fun h => ⟨h.name, h.parts, h.typeParameters, h.parameterTypes⟩⟩

theorem isKey_of_mem_keys (h : d.Spelled) : ∀ key ∈ d.keys, IsKey key := by
  have hname := h.name
  intro key hkey
  unfold keys at hkey
  cases hk : d.kind with
  | namespaceDecl =>
    simp only [hk, List.mem_filter, List.mem_map] at hkey
    obtain ⟨⟨part, hpart, rfl⟩, -⟩ := hkey
    have hp := h.parts hk part hpart
    rw [hp.trim]; exact .plain hp.1 hp.keep?
  | classDecl | structDecl | interfaceDecl | recordDecl | enumDecl =>
    simp only [hk, List.mem_singleton] at hkey
    subst hkey; exact isKey_genericName (hname (by simp [hk])) h.typeParameters
  | enumMember | field | property | event | accessor =>
    simp only [hk, List.mem_singleton] at hkey
    have hp := hname (by simp [hk])
    subst hkey; exact .plain hp.1 hp.keep?
  | indexer =>
    simp only [hk, List.mem_singleton] at hkey
    subst hkey; exact .bracketed (.inr rfl) (keep?_brackets (by simp) h.parameterTypes)
  | method =>
    simp only [hk, List.mem_cons, List.not_mem_nil, or_false] at hkey
    rcases hkey with rfl | rfl
    · exact isKey_genericName (hname (by simp [hk])) h.typeParameters
    · exact .bracketed (.inl rfl) (keep?_brackets (by simp) h.parameterTypes)
  | constructor =>
    simp only [hk, List.mem_singleton] at hkey
    subst hkey; exact .plain (by decide) (by decide)
  | destructor =>
    simp only [hk, List.mem_singleton] at hkey
    subst hkey; exact .plain (by decide) (by decide)

theorem keys_ne_nil (h : d.Spelled) : d.keys ≠ [] := by
  cases hk : d.kind with
  | namespaceDecl =>
    obtain ⟨part, hpart⟩ := List.exists_mem_of_ne_nil _ (Text.split_ne_nil '.' d.name)
    have hp := h.parts hk part hpart
    have hmem : part ∈ d.keys := by
      simp only [keys, hk, List.mem_filter, List.mem_map]
      exact ⟨⟨part, hpart, hp.trim⟩, by simp [hp.1]⟩
    exact List.ne_nil_of_mem hmem
  | _ => simp [keys, hk]

end Declaration

namespace Selector
variable {path key : Text} {keys : List Text}

theorem appendAll_append (path : Text) (k l : List Text) : appendAll path (k ++ l) = appendAll (appendAll path k) l :=
  List.foldl_append

theorem byteLength_lt_append (path : Text) (h : key ≠ []) :
    Text.byteLength path < Text.byteLength (append path key) := by
  have hpos : 0 < Text.byteLength key := by
    cases key with
    | nil => exact absurd rfl h
    | cons c t => have := c.utf8Size_pos; rw [Text.byteLength_cons]; omega
  unfold append
  split
  · rw [Text.byteLength_append]; omega
  · rw [Text.byteLength_append, Text.byteLength_cons]; omega

theorem byteLength_lt_appendAll (hne : keys ≠ []) (h : ∀ k ∈ keys, k ≠ []) :
    Text.byteLength path < Text.byteLength (appendAll path keys) := by
  induction keys generalizing path with
  | nil => exact absurd rfl hne
  | cons key keys ih =>
    have hlt := byteLength_lt_append path (h key (List.mem_cons_self ..))
    by_cases hk : keys = []
    · subst hk; exact hlt
    · exact Nat.lt_trans hlt (ih hk fun k hk' => h k (List.mem_cons_of_mem _ hk'))

end Selector

namespace Declaration
open Selector

theorem pathEntry_appendAll {d : Declaration} (h : ∀ k ∈ d.keys, k ≠ []) (container : Text) :
    d.pathEntry container (appendAll container d.keys) =
      if d.keys.isEmpty then [] else [⟨appendAll container d.keys, d.kind, d.span⟩] := by
  unfold pathEntry
  by_cases hk : d.keys = []
  · simp [hk, appendAll]
  · rw [if_pos (byteLength_lt_appendAll hk h), if_neg (by simpa using hk)]

theorem qualifiedPaths_eq_append (container : Text) (d : Declaration) :
    qualifiedPaths container d = d.pathEntry container (appendAll container d.keys) ++
      qualifiedPathsAll (appendAll container d.keys) d.children := by
  cases d; rfl

/-- The declarations that have keys, with their chains written out after the keys of a container. -/
def listing (above : List Text) (E : List (List Text × Declaration)) : List QualifiedPath :=
  (E.filter fun e => !e.2.keys.isEmpty).map fun e => ⟨appendAll [] (above ++ e.1), e.2.kind, e.2.span⟩

theorem listing_append (above : List Text) (E F : List (List Text × Declaration)) :
    listing above (E ++ F) = listing above E ++ listing above F := by
  rw [listing, List.filter_append, List.map_append]; rfl

theorem listing_chains (above : List Text) (d : Declaration) :
    listing above d.chains = (if d.keys.isEmpty then [] else [⟨appendAll [] (above ++ d.keys), d.kind, d.span⟩]) ++
      listing (above ++ d.keys) (chainsAll d.children) := by
  have htail : listing above ((chainsAll d.children).map fun e => (d.keys ++ e.1, e.2)) =
      listing (above ++ d.keys) (chainsAll d.children) := by
    simp only [listing, List.filter_map, List.map_map, Function.comp_def, List.append_assoc]
  rw [chains_eq, ← List.singleton_append, listing_append, htail, listing, List.filter_singleton]
  cases d.keys.isEmpty <;> rfl

mutual
theorem qualifiedPaths_eq : ∀ (d : Declaration) (above : List Text), (∀ e ∈ d.chains, ∀ k ∈ e.2.keys, k ≠ []) →
    qualifiedPaths (appendAll [] above) d = listing above d.chains
  | ⟨kind, name, typeParameters, parameterTypes, span, children⟩, above, h => by
    have hc : ∀ e ∈ chainsAll children, ∀ k ∈ e.2.keys, k ≠ [] := fun e he =>
      h (_ ++ e.1, e.2) (List.mem_cons_of_mem _ (List.mem_map.2 ⟨e, he, rfl⟩))
    rw [qualifiedPaths_eq_append, pathEntry_appendAll (h _ (List.mem_cons_self ..)), ← appendAll_append,
      qualifiedPathsAll_eq children _ hc, listing_chains]

/-- The qualified paths are the chains, written out. -/
theorem qualifiedPathsAll_eq : ∀ (ds : List Declaration) (above : List Text),
    (∀ e ∈ chainsAll ds, ∀ k ∈ e.2.keys, k ≠ []) →
    qualifiedPathsAll (appendAll [] above) ds = listing above (chainsAll ds)
  | [], above, h => rfl
  | d :: ds, above, h => by
    rw [qualifiedPathsAll, chainsAll_cons, listing_append,
      qualifiedPaths_eq d above fun e he => h e (List.mem_append_left _ he),
      qualifiedPathsAll_eq ds above fun e he => h e (List.mem_append_right _ he)]
end

end Declaration

namespace Index

theorem follow_eq_ok [Backend] {pattern : Text} {node m : Node} {c : List Text} (h : node.walk? c = some m) :
    follow pattern node c = .ok m := by
  induction c generalizing node with
  | nil => rw [follow, Option.some.inj h]
  | cons key c ih =>
    obtain ⟨next, hn, hw⟩ := Option.bind_eq_some_iff.1 h
    rw [follow, hn]; exact ih hw

end Index

namespace DeclarationTree
open Selector

/-- The selectors that are listed for a file whose declarations can be spelled are the chains of the declarations,
written out. Two of them are equal only if their chains are. Each of them, and every trailing part of it, is read
back as its keys, and looking it up finds a node with a span that starts where the declaration starts. -/
theorem qualifiedPaths_found [Backend] (tree : DeclarationTree)
    (h : ∀ d ∈ Declaration.preorderAll tree.declarations, d.Spelled) :
    tree.qualifiedPaths = tree.chains.map (fun e => ⟨appendAll [] e.1, e.2.kind, e.2.span⟩) ∧
    (∀ e ∈ tree.chains, ∀ e' ∈ tree.chains, appendAll [] e.1 = appendAll [] e'.1 → e.1 = e'.1) ∧
    ∀ e ∈ tree.chains, e.1 ≠ [] ∧ ∀ c, c <:+ e.1 →
      chunks (appendAll [] c) = c ∧
      (c ≠ [] → ∃ node, (Index.build tree).find (appendAll [] c) = .ok node ∧
        ∃ s ∈ node.spans, s.start = e.2.span.start) := by
  have hspelled : ∀ e ∈ tree.chains, e.2.Spelled := fun e he => h e.2 (by
    rw [← Declaration.map_snd_chainsAll]; exact List.mem_map_of_mem he)
  have hkey : ∀ e ∈ tree.chains, ∀ k ∈ e.1, IsKey k := Declaration.forall_mem_of_chainsAll _ fun e he =>
    Declaration.isKey_of_mem_keys (hspelled e he)
  have hread : ∀ e ∈ tree.chains, ∀ c, c <:+ e.1 → chunks (appendAll [] c) = c := fun e he c hc =>
    chunks_appendAll fun k hk => hkey e he k (hc.subset hk)
  refine ⟨?_, fun e he e' he' heq => ?_, fun e he => ⟨fun hnil => ?_, fun c hc => ⟨hread e he c hc, fun hne => ?_⟩⟩⟩
  · have hall : (tree.chains.filter fun e => !e.2.keys.isEmpty) = tree.chains :=
      List.filter_eq_self.2 fun e he => by simp [Declaration.keys_ne_nil (hspelled e he)]
    have hlist := Declaration.qualifiedPathsAll_eq tree.declarations [] fun e he k hk =>
      (Declaration.isKey_of_mem_keys (hspelled e he) k hk).ne_nil
    refine hlist.trans ?_
    show (tree.chains.filter fun e => !e.2.keys.isEmpty).map _ = _
    rw [hall]; rfl
  · rw [← hread e he e.1 List.suffix_rfl, heq, hread e' he' e'.1 List.suffix_rfl]
  · have hsuffix := Declaration.keys_suffix_of_mem_chainsAll _ e he
    rw [hnil] at hsuffix
    exact Declaration.keys_ne_nil (hspelled e he) (List.suffix_nil.1 hsuffix)
  · obtain ⟨node, hn, hs⟩ := Index.exists_mem_spans_of_addresses tree hne he
      ⟨Declaration.keys_ne_nil (hspelled e he), .inl hc⟩
    exact ⟨node, by rw [Index.find, hread e he c hc]; exact Index.follow_eq_ok hn, hs⟩

/-- A generic class in a dotted namespace, with a method that takes a tuple in a list and with an indexer. -/
def generics : DeclarationTree :=
  .ofLength 99 [⟨.namespaceDecl, "A.B".toList, [], [], ⟨0, 90⟩, [⟨.classDecl, "M".toList, [['K'], ['V']], [],
    ⟨10, 80⟩, [⟨.method, "G".toList, [], ["L<(K, V[])>".toList], ⟨20, 30⟩, []⟩,
      ⟨.indexer, [], [], ["A.K".toList], ⟨40, 50⟩, []⟩]⟩]⟩]

theorem qualifiedPaths_found_generics :
    (∀ d ∈ Declaration.preorderAll generics.declarations, d.Spelled) ∧
      ∃ node, (Index.build generics).find "M\x7bK,V\x7d.G(L<(K,V[])>)".toList = .ok node ∧
        ∃ s ∈ node.spans, s.start = 20 := by
  have hs : ∀ d ∈ Declaration.preorderAll generics.declarations, d.Spelled := by decide
  have he : generics.chains[2] ∈ generics.chains := List.getElem_mem (by decide)
  have hc : ["M\x7bK,V\x7d".toList, "G".toList, "(L<(K,V[])>)".toList] <:+ generics.chains[2].1 := by decide
  exact ⟨hs, (((qualifiedPaths_found generics hs).2.2 _ he).2 _ hc).2 (by decide)⟩

end DeclarationTree

end Excerpt
