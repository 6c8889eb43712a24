import Excerpt.Text.Basic

/-! # Tables

Association lists with text keys in ascending order of their code points. `Table.insert` sets the value of a
key and keeps the order (`ascending_insert`); what `List.lookup` finds afterwards does not depend on the order
(`lookup_insert_self`, `lookup_insert_of_ne`). -/

namespace Excerpt

namespace Table

variable {α : Type}

/-- Sets the value of a key. -/
def insert (key : Text) (a : α) : List (Text × α) → List (Text × α)
  | [] => [(key, a)]
  | (k, b) :: rest =>
    if key < k then (key, a) :: (k, b) :: rest
    else if key = k then (key, a) :: rest
    else (k, b) :: insert key a rest

/-- Sets a key to what `f` makes of its value. -/
def alter (key : Text) (f : Option α → α) (table : List (Text × α)) : List (Text × α) :=
  insert key (f (table.lookup key)) table

/-- The table of the given entries, of which a later one takes the place of an earlier one with the same key. -/
def ofEntries (entries : List (Text × α)) : List (Text × α) :=
  entries.foldl (fun table p => insert p.1 p.2 table) []

variable {key k : Text} {a : α} {table : List (Text × α)}

@[simp] theorem lookup_insert_self (table : List (Text × α)) : (insert key a table).lookup key = some a := by
  induction table with
  | nil => simp [insert]
  | cons p rest ih =>
    obtain ⟨k, b⟩ := p
    unfold insert
    split
    · simp
    · split
      · simp
      next h => simpa [List.lookup_cons, beq_false_of_ne h] using ih

theorem lookup_insert_of_ne (h : k ≠ key) (table : List (Text × α)) :
    (insert key a table).lookup k = table.lookup k := by
  induction table with
  | nil => simp [insert, List.lookup_cons, beq_false_of_ne h]
  | cons p rest ih =>
    obtain ⟨l, b⟩ := p
    unfold insert
    split
    · simp [List.lookup_cons, beq_false_of_ne h]
    · split
      next hl => subst hl; simp [List.lookup_cons, beq_false_of_ne h]
      next => simp only [List.lookup_cons, ih]

theorem mem_keys_insert :
    k ∈ (insert key a table).map Prod.fst ↔ k = key ∨ k ∈ table.map Prod.fst := by
  induction table with
  | nil => simp [insert]
  | cons p rest ih =>
    obtain ⟨l, b⟩ := p
    unfold insert
    split
    · simp
    · split
      next h => subst h; simp
      next => simp only [List.map_cons, List.mem_cons, ih]; exact or_left_comm

theorem ascending_insert (h : (table.map Prod.fst).Pairwise (· < ·)) :
    ((insert key a table).map Prod.fst).Pairwise (· < ·) := by
  induction table with
  | nil => simp [insert]
  | cons p rest ih =>
    obtain ⟨l, b⟩ := p
    rw [List.map_cons, List.pairwise_cons] at h
    unfold insert
    split
    next hlt =>
      refine List.pairwise_cons.2 ⟨fun k hk => ?_, List.pairwise_cons.2 h⟩
      rcases List.mem_cons.1 hk with rfl | hk
      · exact hlt
      · exact List.lt_trans hlt (h.1 k hk)
    next hge =>
      split
      next heq => subst heq; exact List.pairwise_cons.2 h
      next hne =>
        refine List.pairwise_cons.2 ⟨fun k hk => ?_, ih h.2⟩
        rcases mem_keys_insert.1 hk with rfl | hk
        · exact Std.lt_of_le_of_ne (Std.not_lt.1 hge) (Ne.symm hne)
        · exact h.1 k hk

theorem ascending_ofEntries (entries : List (Text × α)) : ((ofEntries entries).map Prod.fst).Pairwise (· < ·) := by
  have hfold : ∀ table : List (Text × α), (table.map Prod.fst).Pairwise (· < ·) →
      ((entries.foldl (fun table p => insert p.1 p.2 table) table).map Prod.fst).Pairwise (· < ·) := by
    induction entries with
    | nil => exact fun table h => h
    | cons p entries ih => exact fun table h => ih _ (ascending_insert h)
  exact hfold [] .nil

end Table

end Excerpt
