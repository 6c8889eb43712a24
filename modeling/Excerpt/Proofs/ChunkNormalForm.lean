import Excerpt.Proofs.SelectorText

/-!
# The normal form of a selector

A character of a selector has one of four roles (`Role`): it is blank and passed over, it is a dot or an opening bracket
outside all brackets and ends the chunk at hand, or it is added to that chunk. Chunks end outside brackets only, so all
of them but the last are keys; the last may leave brackets open, and stray closing brackets do not count (`Legible`).
That is enough to read them back after they are written one after the other (`Legible.chunks_appendAll`).
-/

namespace Excerpt

namespace Selector
variable {c : Char} {t p q key chunk rest path : Text} {n depth : Nat} {keys more : List Text}

/-! ### What one character does -/

inductive Role (depth : Nat) (c : Char) : Prop where
  | blank (h : Text.isBlank c)
  | dot (h : c = '.') (hd : depth = 0)
  | bracket (h : c = '(' ∨ c = '[') (hd : depth = 0)
  | stays (h : Stays depth c)

theorem role (depth : Nat) (c : Char) : Role depth c := by
  by_cases hblank : Text.isBlank c
  · exact .blank hblank
  by_cases hd : depth = 0
  · by_cases hdot : c = '.'
    · exact .dot hdot hd
    by_cases hopen : c = '(' ∨ c = '['
    · exact .bracket hopen hd
    · exact .stays ⟨hblank, fun _ => ⟨hdot, not_or.1 hopen⟩⟩
  · exact .stays ⟨hblank, fun h => absurd h hd⟩

theorem not_mem_of_isBlank (h : Text.isBlank c) : c ∉ ['.', '(', ')', '[', ']', '{', '}', '<', '>'] := by
  intro hm
  simp only [List.mem_cons, List.not_mem_nil, or_false] at hm
  rcases hm with rfl | rfl | rfl | rfl | rfl | rfl | rfl | rfl | rfl <;> exact absurd h (by decide)

theorem chunksFrom_blank (h : Text.isBlank c) : chunksFrom depth chunk (c :: rest) = chunksFrom depth chunk rest := by
  have hc := not_mem_of_isBlank h
  simp only [List.mem_cons, List.not_mem_nil, or_false, not_or] at hc
  simp [chunksFrom, hc, h]

/-- The selector without its blank characters and without the dots outside brackets. -/
def undotted (depth : Nat) : Text → Text
  | [] => []
  | c :: t =>
    if Text.isBlank c ∨ c = '.' ∧ depth = 0 then undotted (nextDepth depth c) t
    else c :: undotted (nextDepth depth c) t

theorem undotted_blank (h : Text.isBlank c) : undotted depth (c :: t) = undotted depth t := by
  rw [undotted, if_pos (.inl h), nextDepth_of_not_mem (not_mem_of_isBlank h)]

theorem undotted_dot : undotted 0 ('.' :: t) = undotted 0 t := rfl

theorem undotted_of_not (hb : ¬ Text.isBlank c) (hc : depth = 0 → c ≠ '.') :
    undotted depth (c :: t) = c :: undotted (nextDepth depth c) t :=
  if_neg fun h => h.elim hb fun ⟨h, hd⟩ => hc hd h

/-! ### What all characters do -/

theorem flatten_flush (chunk : Text) : (flush chunk).flatten = chunk := by
  cases chunk <;> simp [flush]

theorem flatten_chunksFrom (depth : Nat) (chunk t : Text) :
    (chunksFrom depth chunk t).flatten = chunk ++ undotted depth t := by
  induction t generalizing depth chunk with
  | nil => rw [chunksFrom, flatten_flush, undotted, List.append_nil]
  | cons c t ih =>
    cases role depth c with
    | blank h => rw [chunksFrom_blank h, undotted_blank h, ih]
    | dot h hd =>
      subst h hd
      rw [chunksFrom_dot, List.flatten_append, flatten_flush, ih, undotted_dot, List.nil_append]
    | bracket h hd =>
      subst hd
      have hdot : c ≠ '.' := by rcases h with rfl | rfl <;> decide
      have hblank : ¬ Text.isBlank c := by rcases h with rfl | rfl <;> decide
      have hnext : nextDepth 0 c = 1 := by rcases h with rfl | rfl <;> decide
      rw [chunksFrom_bracket h, List.flatten_append, flatten_flush, ih, undotted_of_not hblank fun _ => hdot, hnext,
        List.singleton_append]
    | stays h =>
      rw [chunksFrom_cons h, ih, undotted_of_not h.1 fun hd => (h.2 hd).1, List.append_assoc, List.singleton_append]

theorem chunksFrom_squeeze (depth : Nat) (chunk t : Text) :
    chunksFrom depth chunk t.squeeze = chunksFrom depth chunk t := by
  induction t generalizing depth chunk with
  | nil => rfl
  | cons c t ih =>
    by_cases hblank : Text.isBlank c
    · rw [chunksFrom_blank hblank, ← ih, Text.squeeze, List.filter_cons_of_neg (by simpa using hblank), Text.squeeze]
    · have hsqueeze : Text.squeeze (c :: t) = c :: Text.squeeze t := List.filter_cons_of_pos (by simpa using hblank)
      rw [hsqueeze]
      cases role depth c with
      | blank h => exact absurd h hblank
      | dot h hd => subst h hd; rw [chunksFrom_dot, chunksFrom_dot, ih]
      | bracket h hd => subst hd; rw [chunksFrom_bracket h, chunksFrom_bracket h, ih]
      | stays h => rw [chunksFrom_cons h, chunksFrom_cons h, ih]

theorem chunks_eq_of_squeeze_eq (h : q.squeeze = p.squeeze) : chunks q = chunks p := by
  rw [chunks, chunks, ← chunksFrom_squeeze, h, chunksFrom_squeeze]

/-! ### The chunks are legible -/

theorem not_isBlank_of_keep? (h : keep? depth t = some n) : ∀ c ∈ t, ¬ Text.isBlank c := by
  induction t generalizing depth with
  | nil => simp
  | cons c t ih =>
    rw [keep?] at h
    split at h
    next hc => exact List.forall_mem_cons.2 ⟨hc.1, ih h⟩
    next => cases h

namespace Begins

theorem not_isBlank (h : Begins n key) : ∀ c ∈ key, ¬ Text.isBlank c := by
  cases h with
  | plain hkeep => exact not_isBlank_of_keep? hkeep
  | bracketed hc hkeep =>
    refine List.forall_mem_cons.2 ⟨?_, not_isBlank_of_keep? hkeep⟩
    rcases hc with rfl | rfl <;> decide

theorem isKey (h : Begins 0 key) (hne : key ≠ []) : IsKey key := by
  cases h with
  | plain hkeep => exact .plain hne hkeep
  | bracketed hc hkeep => exact .bracketed hc hkeep

theorem concat (h : Begins n key) (hc : Stays n c) : Begins (nextDepth n c) (key ++ [c]) := by
  have hone : keep? n [c] = some (nextDepth n c) := keep?_cons hc
  cases h with
  | plain hkeep => exact .plain ((keep?_append hkeep).trans hone)
  | bracketed hb hkeep => exact .bracketed hb ((keep?_append hkeep).trans hone)

end Begins

/-- Keys, the last of which may leave brackets open. -/
inductive Legible : List Text → Prop where
  | nil : Legible []
  | last {n : Nat} {key : Text} : Begins n key → key ≠ [] → Legible [key]
  | cons {key : Text} {keys : List Text} : IsKey key → Legible keys → Legible (key :: keys)

namespace Legible

theorem flush_append (h : Begins 0 chunk) (hk : Legible keys) : Legible (flush chunk ++ keys) := by
  by_cases hne : chunk = []
  · subst hne
    exact hk
  · rw [flush_of_ne_nil hne]
    exact .cons (h.isKey hne) hk

/-- The chunk at hand is the start of a key whenever the reader goes on, and a key whenever it is ended. -/
theorem chunksFrom (h : Begins depth chunk) (t : Text) : Legible (chunksFrom depth chunk t) := by
  induction t generalizing depth chunk with
  | nil =>
    rw [Selector.chunksFrom]
    by_cases hne : chunk = []
    · subst hne
      exact .nil
    · rw [flush_of_ne_nil hne]
      exact .last h hne
  | cons c t ih =>
    cases role depth c with
    | blank hc =>
      rw [chunksFrom_blank hc]
      exact ih h
    | dot hc hd =>
      subst hc hd
      rw [chunksFrom_dot]
      exact flush_append h (ih (.plain rfl))
    | bracket hc hd =>
      subst hd
      rw [chunksFrom_bracket hc]
      exact flush_append h (ih (.bracketed hc rfl))
    | stays hc =>
      rw [chunksFrom_cons hc]
      exact ih (h.concat hc)

theorem ne_nil_and_not_isBlank (h : Legible keys) : ∀ key ∈ keys, key ≠ [] ∧ ∀ c ∈ key, ¬ Text.isBlank c := by
  induction h with
  | nil => simp
  | last hb hne => exact List.forall_mem_singleton.2 ⟨hne, hb.not_isBlank⟩
  | cons hk _ ih => exact List.forall_mem_cons.2 ⟨⟨hk.ne_nil, hk.begins.not_isBlank⟩, ih⟩

theorem chunks_appendAll (h : Legible more) (hr : Reads path keys) : chunks (appendAll path more) = keys ++ more := by
  induction h generalizing path keys with
  | nil =>
    rw [List.append_nil]
    exact hr.chunks_eq
  | @last n key hb hne =>
    have hpath := hr.chunks_append hb []
    rw [List.append_nil, Selector.chunksFrom, flush_of_ne_nil hne] at hpath
    exact hpath
  | @cons key more hk _ ih =>
    have hrest : chunks (appendAll (append path key) more) = keys ++ [key] ++ more := ih (hr.append hk)
    rw [List.append_assoc] at hrest
    exact hrest

end Legible

/-- The chunks of a selector are not empty and have no blank characters, they hold all of it but its blank characters
and the dots outside brackets, they do not depend on the blank characters, and they are the chunks of the selector that
is written from them. -/
theorem chunks_normalForm (p : Text) :
    (∀ chunk ∈ chunks p, chunk ≠ [] ∧ ∀ c ∈ chunk, ¬ Text.isBlank c) ∧
      (chunks p).flatten = undotted 0 p ∧
      (∀ q : Text, q.squeeze = p.squeeze → chunks q = chunks p) ∧
      chunks (appendAll [] (chunks p)) = chunks p := by
  have hlegible : Legible (chunks p) := .chunksFrom (.plain rfl) p
  refine ⟨hlegible.ne_nil_and_not_isBlank, ?_, fun q => chunks_eq_of_squeeze_eq, ?_⟩
  · exact flatten_chunksFrom 0 [] p
  · exact hlegible.chunks_appendAll .empty

/-- A bracket that nothing opened, one that nothing closes, and blank characters of two kinds. -/
theorem chunks_normalForm_unbalanced :
    Text.squeeze ">A .b\u3000(c. d".toList = Text.squeeze ">A.b(c.d".toList ∧
      chunks ">A .b\u3000(c. d".toList = chunks ">A.b(c.d".toList ∧
      chunks ">A.b(c.d".toList = [">A".toList, "b".toList, "(c.d".toList] := by
  have hsqueeze : Text.squeeze ">A .b\u3000(c. d".toList = Text.squeeze ">A.b(c.d".toList := by decide
  exact ⟨hsqueeze, (chunks_normalForm ">A.b(c.d".toList).2.2.1 _ hsqueeze, by decide⟩

end Selector

end Excerpt
