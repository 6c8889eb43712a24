import Excerpt.Proofs.FoundPath
import Mathlib.Data.List.Infix

/-!
# What is where in a file tree

`Tree.occupant?` says of each place whether there is a file, with its content, or a directory. A change at one place is
seen at that place alone (`occupant?_put`, `occupant?_remove`). A file that is listed is at a place to which names lead,
and every file is listed once (`files_below`, `pairwise_files`).
-/

namespace Excerpt

namespace Path

theorem isName_iff {part : Text} : isName part = true ↔ ¬ isIdle part ∧ part ≠ dotDot ∧ '/' ∉ part := by
  simp [isName, and_assoc]

end Path

namespace Files

/-- What there is at a place. -/
inductive Occupant where
  | file (content : Content)
  | directory
deriving DecidableEq, Repr

namespace Tree
variable {tree part : Tree} {location place above rest : Location} {name : Text} {content : Content}

def occupant : Tree → Occupant
  | .file content => .file content
  | .directory _ => .directory

def occupant? (tree : Tree) (place : Location) : Option Occupant := (tree.get? place).map occupant

theorem occupant?_eq_directory :
    tree.occupant? place = some .directory ↔ ∃ entries, tree.get? place = some (.directory entries) := by
  unfold occupant?
  rcases tree.get? place with _ | ⟨content⟩ | ⟨entries⟩ <;> simp [occupant]

theorem occupant?_eq_file : tree.occupant? place = some (.file content) ↔ tree.get? place = some (.file content) := by
  unfold occupant?
  rcases tree.get? place with _ | ⟨content⟩ | ⟨entries⟩ <;> simp [occupant]

theorem occupant?_eq_none : tree.occupant? place = none ↔ tree.get? place = none := by
  simp [occupant?]

/-- Something can only be below a directory. -/
theorem occupant?_above (h : tree.occupant? (above ++ rest) ≠ none) (hne : rest ≠ []) :
    tree.occupant? above = some .directory := by
  have h : tree.get? (above ++ rest) ≠ none := mt occupant?_eq_none.2 h
  rw [get?_append] at h
  obtain ⟨part, hpart⟩ := Option.ne_none_iff_exists'.1 h
  obtain ⟨found, hfound, hrest⟩ := Option.bind_eq_some_iff.1 hpart
  cases found with
  | file content =>
    obtain ⟨name, rest, rfl⟩ := List.exists_cons_of_ne_nil hne
    simp [get?] at hrest
  | directory entries => exact occupant?_eq_directory.2 ⟨entries, hfound⟩

theorem directory_of_prefix (h : place <+: above) (hd : tree.occupant? above = some .directory) :
    tree.occupant? place = some .directory := by
  obtain ⟨rest, rfl⟩ := h
  by_cases hnil : rest = []
  · rwa [hnil, List.append_nil] at hd
  · exact occupant?_above (by rw [hd]; simp) hnil

theorem isSome_lookup {entries : List (Text × Tree)} (h : tree.get? above = some (.directory entries)) (name : Text) :
    (entries.lookup name).isSome = (tree.occupant? (above ++ [name])).isSome := by
  rw [occupant?, Option.isSome_map, get?_append, h, Option.bind_some, get?]
  cases entries.lookup name <;> simp [get?]

theorem occupant?_eq_none_of_entries (h : part.entries = []) (name : Text) (rest : Location) :
    part.occupant? (name :: rest) = none := by
  cases part with
  | file content => rfl
  | directory entries =>
    have h : entries = [] := h
    subst h
    rfl

/-! ### Putting a part at a place -/

theorem get?_put_above (tree : Tree) (above rest : Location) (part : Tree) :
    (tree.put (above ++ rest) part).get? above = some (((tree.get? above).getD empty).put rest part) := by
  induction above generalizing tree with
  | nil => simp [get?]
  | cons name above ih =>
    rw [List.cons_append, put, get?]
    simp only [Table.alter, Table.lookup_insert_self]
    rw [ih]
    cases tree with
    | file content => cases above <;> simp [entries, get?, empty]
    | directory items =>
      simp only [entries, get?]
      cases items.lookup name with
      | some entry => simp
      | none => cases above <;> simp [get?, empty]

theorem get?_put_self (tree : Tree) (location : Location) (part : Tree) :
    (tree.put location part).get? location = some part := by
  have h := get?_put_above tree location [] part
  rwa [List.append_nil, put] at h

theorem get?_put_below (tree : Tree) (location rest : Location) (part : Tree) :
    (tree.put location part).get? (location ++ rest) = part.get? rest := by
  rw [get?_append, get?_put_self, Option.bind_some]

/-- Nothing changes at places that are neither above nor below. -/
theorem get?_put_apart (part : Tree) (h : ¬ location <+: place) (h' : ¬ place <+: location) :
    (tree.put location part).get? place = tree.get? place := by
  induction location generalizing tree place with
  | nil => exact absurd List.nil_prefix h
  | cons name location ih =>
    cases place with
    | nil => exact absurd List.nil_prefix h'
    | cons other place =>
      rw [put, get?]
      simp only [Table.alter]
      by_cases hne : other = name
      · subst hne
        rw [List.cons_prefix_cons] at h h'
        rw [Table.lookup_insert_self]
        simp only
        rw [ih (fun hp => h ⟨rfl, hp⟩) fun hp => h' ⟨rfl, hp⟩]
        have hplace : place ≠ [] := by
          rintro rfl
          exact h' ⟨rfl, List.nil_prefix⟩
        obtain ⟨next, rest, rfl⟩ := List.exists_cons_of_ne_nil hplace
        cases tree with
        | file content => simp [entries, get?, empty]
        | directory items =>
          simp only [entries, get?]
          cases items.lookup other with
          | some entry => simp
          | none => simp [empty]
      · rw [Table.lookup_insert_of_ne hne]
        cases tree <;> rfl

/-- A part without entries that takes the place of nothing, or of a file, is seen at its place alone. -/
theorem occupant?_put (habove : tree.occupant? above = some .directory)
    (hfree : tree.occupant? (above ++ [name]) ≠ some .directory) (hpart : part.entries = []) (place : Location) :
    (tree.put (above ++ [name]) part).occupant? place =
      if place = above ++ [name] then some part.occupant else tree.occupant? place := by
  split
  next h =>
    subst h
    rw [occupant?, get?_put_self, Option.map_some]
  next hne =>
    by_cases hbelow : above ++ [name] <+: place
    · -- below the place there was nothing, and there is nothing
      obtain ⟨rest, rfl⟩ := hbelow
      have hrest : rest ≠ [] := by
        rintro rfl
        exact hne (List.append_nil _)
      have hbefore : tree.occupant? (above ++ [name] ++ rest) = none := by
        by_contra h
        exact hfree (occupant?_above h hrest)
      obtain ⟨next, rest, rfl⟩ := List.exists_cons_of_ne_nil hrest
      rw [hbefore, occupant?, get?_put_below]
      exact occupant?_eq_none_of_entries hpart next rest
    by_cases hover : place <+: above ++ [name]
    · -- above the place there was a directory, and there is one
      obtain ⟨rest, hrest⟩ := hover
      have hrest' : rest ≠ [] := by
        rintro rfl
        exact hne (by rw [← hrest, List.append_nil])
      obtain ⟨next, rest', rfl⟩ := List.exists_cons_of_ne_nil hrest'
      have hbefore : tree.occupant? place = some .directory := by
        rcases List.prefix_concat_iff.1 ⟨_, hrest⟩ with heq | hprefix
        · exact absurd heq hne
        · exact directory_of_prefix hprefix habove
      rw [← hrest, hbefore, occupant?, get?_put_above, put]
      rfl
    · rw [occupant?, get?_put_apart part hbelow hover, occupant?]

/-! ### Removing what is at a place -/

theorem get?_cons (tree : Tree) (name : Text) (rest : Location) :
    tree.get? (name :: rest) = (tree.entries.lookup name).bind fun entry => entry.get? rest := by
  cases tree with
  | file content => rfl
  | directory entries =>
    rw [get?, Tree.entries]
    cases entries.lookup name <;> rfl

theorem lookup_remove_singleton (tree : Tree) (name other : Text) :
    (tree.remove [name]).entries.lookup other = if other = name then none else tree.entries.lookup other := by
  cases tree with
  | file content => simp [remove, entries]
  | directory entries =>
    rw [remove, Tree.entries, Tree.entries]
    induction entries with
    | nil => simp
    | cons entry entries ih =>
      obtain ⟨key, tree⟩ := entry
      by_cases hkey : key = name
      · rw [List.filter_cons_of_neg (by simpa using hkey), ih, hkey, List.lookup_cons]
        split
        · rfl
        next hne => rw [beq_false_of_ne hne]
      · rw [List.filter_cons_of_pos (by simpa using hkey), List.lookup_cons, List.lookup_cons, ih]
        by_cases hother : other = key
        · subst hother
          simp [hkey]
        · rw [beq_false_of_ne hother]

theorem lookup_remove_cons (tree : Tree) (name : Text) (hne : location ≠ []) (other : Text) :
    (tree.remove (name :: location)).entries.lookup other =
      if other = name then (tree.entries.lookup name).map (remove location) else tree.entries.lookup other := by
  cases tree with
  | file content => simp [remove, entries]
  | directory entries =>
    rw [remove, Tree.entries]
    · cases hl : entries.lookup name with
      | none =>
        rw [if_neg (by simp), Tree.entries]
        split
        next hother => rw [hother, hl, Option.map_none]
        next => rfl
      | some entry =>
        rw [if_pos (by simp), Tree.entries, Table.alter, hl]
        split
        next hother => rw [hother, Table.lookup_insert_self, Option.getD_some, Option.map_some]
        next hother => rw [Table.lookup_insert_of_ne hother]
    · exact hne

/-- What is removed is gone with all below it, and nothing changes at places that are neither above nor below. -/
theorem get?_remove_below (tree : Tree) (hne : location ≠ []) (rest : Location) :
    (tree.remove location).get? (location ++ rest) = none := by
  induction location generalizing tree with
  | nil => exact absurd rfl hne
  | cons name location ih =>
    rw [List.cons_append, get?_cons]
    by_cases hnil : location = []
    · rw [hnil, lookup_remove_singleton, if_pos rfl, Option.bind_none]
    · rw [lookup_remove_cons tree name hnil, if_pos rfl, Option.bind_map]
      cases tree.entries.lookup name with
      | none => rfl
      | some entry => exact ih entry hnil

theorem get?_remove_apart (h : ¬ location <+: place) (h' : ¬ place <+: location) :
    (tree.remove location).get? place = tree.get? place := by
  induction location generalizing tree place with
  | nil => exact absurd List.nil_prefix h
  | cons name location ih =>
    cases place with
    | nil => exact absurd List.nil_prefix h'
    | cons other place =>
      rw [get?_cons, get?_cons]
      by_cases hnil : location = []
      · have hother : other ≠ name := by
          rintro rfl
          exact h (by simp [hnil])
        rw [hnil, lookup_remove_singleton, if_neg hother]
      · rw [lookup_remove_cons tree name hnil]
        split
        next hother =>
          subst hother
          rw [List.cons_prefix_cons] at h h'
          rw [Option.bind_map]
          exact congrArg _ (funext fun entry => ih (fun hp => h ⟨rfl, hp⟩) fun hp => h' ⟨rfl, hp⟩)
        next => rfl

theorem occupant?_remove_above (tree : Tree) (hne : rest ≠ []) :
    (tree.remove (above ++ rest)).occupant? above = tree.occupant? above := by
  induction above generalizing tree with
  | nil =>
    obtain ⟨name, rest, rfl⟩ := List.exists_cons_of_ne_nil hne
    rw [List.nil_append]
    cases tree with
    | file content => cases rest <;> rfl
    | directory entries =>
      cases rest with
      | nil => rfl
      | cons next rest =>
        rw [remove]
        · split <;> rfl
        · simp
  | cons name above ih =>
    have hne' : above ++ rest ≠ [] := by simp [hne]
    rw [occupant?, occupant?, List.cons_append, get?_cons, get?_cons, lookup_remove_cons tree name hne', if_pos rfl]
    cases tree.entries.lookup name with
    | none => rfl
    | some entry => exact ih entry

/-- The removal of a file is seen at its place alone. -/
theorem occupant?_remove (hne : location ≠ []) (hfile : tree.occupant? location ≠ some .directory)
    (place : Location) :
    (tree.remove location).occupant? place = if place = location then none else tree.occupant? place := by
  split
  next h =>
    have hself := get?_remove_below tree hne []
    rw [List.append_nil] at hself
    rw [h, occupant?, hself, Option.map_none]
  next h =>
    by_cases hbelow : location <+: place
    · obtain ⟨rest, rfl⟩ := hbelow
      have hrest : rest ≠ [] := by
        rintro rfl
        exact h (List.append_nil _)
      have hbefore : tree.occupant? (location ++ rest) = none := by
        by_contra hsome
        exact hfile (occupant?_above hsome hrest)
      rw [hbefore, occupant?, get?_remove_below tree hne, Option.map_none]
    by_cases hover : place <+: location
    · obtain ⟨rest, rfl⟩ := hover
      exact occupant?_remove_above tree fun hnil => h (by rw [hnil, List.append_nil])
    · rw [occupant?, get?_remove_apart hbelow hover, occupant?]

/-! ### The files of a tree -/

mutual
/-- A file that is listed is at a place below the location, to which names lead. -/
theorem files_below : ∀ (tree : Tree) (location : Location), ∀ p ∈ tree.files location,
    ∃ rest, p.1 = location ++ rest ∧ ∀ name ∈ rest, Path.isName name
  | .file content, location, p, hp => by
    rw [files, List.mem_singleton] at hp
    exact ⟨[], by rw [hp, List.append_nil], by simp⟩
  | .directory entries, location, p, hp => by
    rw [files] at hp
    obtain ⟨name, -, rest, hlocation, hnames⟩ := filesAll_below entries location [] p hp
    exact ⟨name :: rest, hlocation, hnames⟩

theorem filesAll_below : ∀ (entries : List (Text × Tree)) (location : Location) (taken : List Text),
    ∀ p ∈ filesAll location taken entries, ∃ name, name ∉ taken ∧ ∃ rest, p.1 = location ++ name :: rest ∧
      ∀ n ∈ name :: rest, Path.isName n
  | [], location, taken, p, hp => by cases hp
  | (name, tree) :: entries, location, taken, p, hp => by
    rw [filesAll] at hp
    rcases List.mem_append.1 hp with hp | hp
    · split at hp
      next hname =>
        obtain ⟨hisName, htaken⟩ := Bool.and_eq_true_iff.1 hname
        obtain ⟨rest, hlocation, hnames⟩ := files_below tree (location ++ [name]) p hp
        exact ⟨name, by simpa using htaken, rest, by simp [hlocation], List.forall_mem_cons.2 ⟨hisName, hnames⟩⟩
      next => cases hp
    · obtain ⟨other, hother, hrest⟩ := filesAll_below entries location (name :: taken) p hp
      exact ⟨other, fun hm => hother (List.mem_cons_of_mem _ hm), hrest⟩
end

mutual
/-- Every file is listed once. -/
theorem pairwise_files : ∀ (tree : Tree) (location : Location),
    (tree.files location).Pairwise fun p q => p.1 ≠ q.1
  | .file content, location => by simp [files]
  | .directory entries, location => by
    rw [files]
    exact pairwise_filesAll entries location []

theorem pairwise_filesAll : ∀ (entries : List (Text × Tree)) (location : Location) (taken : List Text),
    (filesAll location taken entries).Pairwise fun p q => p.1 ≠ q.1
  | [], location, taken => by simp [filesAll]
  | (name, tree) :: entries, location, taken => by
    rw [filesAll, List.pairwise_append]
    refine ⟨?_, pairwise_filesAll entries location (name :: taken), ?_⟩
    · split
      · exact pairwise_files tree _
      · exact .nil
    · intro p hp q hq heq
      split at hp
      next =>
        obtain ⟨rest, hpath, -⟩ := files_below tree (location ++ [name]) p hp
        obtain ⟨other, hother, rest', hpath', -⟩ := filesAll_below entries location (name :: taken) q hq
        rw [hpath, hpath', List.append_assoc] at heq
        have hnames := List.append_cancel_left heq
        rw [List.singleton_append, List.cons.injEq] at hnames
        exact hother (hnames.1 ▸ List.mem_cons_self)
      next => cases hp
end

end Tree

end Files

end Excerpt
