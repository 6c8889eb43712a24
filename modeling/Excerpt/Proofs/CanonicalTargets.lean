import Excerpt.Proofs.PathWalks

/-!
# One name for each file

`Tree.Leads` gives the rules by which a path is followed: every part is followed from a directory, also an empty one, a
dot or two dots, so nothing follows a file or a name that is not there. A path `Denotes` the file that it leads to.
Many paths denote one file, but a target is resolved to the path that spells out the place of the file
(`resolve_eq_ok_iff`). That path has nothing but names in it, it denotes the file (`denotes_pathOf`), and no two places
share it (`pathOf_inj`).
-/

namespace Excerpt

namespace Files

namespace Tree

/-- The parts lead from a place to another one. -/
inductive Leads (root : Tree) : Location → List Text → Location → Prop
  | here {place : Location} : Leads root place [] place
  | idle {place last : Location} {part : Text} {parts : List Text} (hd : root.occupant? place = some .directory)
      (hp : Path.isIdle part) (h : Leads root place parts last) : Leads root place (part :: parts) last
  | up {place last : Location} {parts : List Text} (hd : root.occupant? place = some .directory)
      (h : Leads root place.dropLast parts last) : Leads root place (Path.dotDot :: parts) last
  | down {place last : Location} {name : Text} {parts : List Text} (hd : root.occupant? place = some .directory)
      (hidle : ¬ Path.isIdle name) (hdots : name ≠ Path.dotDot) (hn : root.occupant? (place ++ [name]) ≠ none)
      (h : Leads root (place ++ [name]) parts last) : Leads root place (name :: parts) last

/-- Parts without a slash lead from names to names. -/
theorem Leads.isName {root : Tree} {place last : Location} {parts : List Text} (h : root.Leads place parts last)
    (hparts : ∀ part ∈ parts, '/' ∉ part) (hplace : ∀ name ∈ place, Path.isName name) :
    ∀ name ∈ last, Path.isName name := by
  induction h with
  | here => exact hplace
  | idle _ _ _ ih => exact ih (List.forall_mem_cons.1 hparts).2 hplace
  | up _ _ ih =>
    exact ih (List.forall_mem_cons.1 hparts).2 fun name hm => hplace name (List.mem_of_mem_dropLast hm)
  | down _ hidle hdots _ _ ih =>
    obtain ⟨hslash, hrest⟩ := List.forall_mem_cons.1 hparts
    refine ih hrest (List.forall_mem_append.2 ⟨hplace, ?_⟩)
    exact List.forall_mem_singleton.2 (Path.isName_iff.2 ⟨hidle, hdots, hslash⟩)

end Tree

namespace Disk
variable {disk : Disk} {place next last : Location} {part path : Text} {parts : List Text} {content : Content}

theorem isName_of_mem_start (path : Text) : ∀ name ∈ disk.start path, Path.isName name := by
  intro name hm
  rw [start] at hm
  split at hm
  · cases hm
  · exact (List.mem_filter.1 hm).2

theorem walk_eq_ok_iff : disk.walk place parts = .ok last ↔ disk.root.Leads place parts last := by
  constructor
  · intro h
    induction parts generalizing place with
    | nil => cases h; exact .here
    | cons part parts ih =>
      obtain ⟨next, hstep, hrest⟩ := walk_cons_iff.1 h
      obtain ⟨hd, ⟨hidle, rfl⟩ | ⟨rfl, rfl⟩ | ⟨hidle, hdots, hn, rfl⟩⟩ := step_eq_ok_iff.1 hstep
      · exact .idle hd hidle (ih hrest)
      · exact .up hd (ih hrest)
      · exact .down hd hidle hdots hn (ih hrest)
  · intro h
    induction h with
    | here => rfl
    | idle hd hp _ ih => exact walk_cons_iff.2 ⟨_, step_eq_ok_iff.2 ⟨hd, .inl ⟨hp, rfl⟩⟩, ih⟩
    | up hd _ ih => exact walk_cons_iff.2 ⟨_, step_eq_ok_iff.2 ⟨hd, .inr (.inl ⟨rfl, rfl⟩)⟩, ih⟩
    | down hd hidle hdots hn _ ih =>
      exact walk_cons_iff.2 ⟨_, step_eq_ok_iff.2 ⟨hd, .inr (.inr ⟨hidle, hdots, hn, rfl⟩)⟩, ih⟩

/-- The path leads to the file at the place. -/
structure Denotes (disk : Disk) (path : Text) (place : Location) : Prop where
  ne_nil : path ≠ []
  leads : disk.root.Leads (disk.start path) (path.split '/') place
  file : ∃ content, disk.root.occupant? place = some (.file content)

/-! ### The path of a place -/

theorem split_pathOf (h : Path.Below place) : (pathOf place).split '/' = [] :: place := by
  rw [pathOf, Text.split, if_pos rfl]
  exact congrArg ([] :: ·) (Path.split_ofNames h)

theorem components_pathOf (h : Path.Below place) : Path.components (pathOf place) = Path.rootName :: place := by
  have hnames : (place.filter fun part => !Path.isIdle part) = place :=
    List.filter_eq_self.2 fun name hm => by simpa using (Path.isName_iff.1 (h.isName name hm)).1
  have habsolute : Path.isAbsolute (pathOf place) = true := rfl
  rw [Path.components, habsolute, if_pos rfl, split_pathOf h, List.filter_cons_of_neg (by decide), hnames]

theorem components_pathOf_inj (h : Path.Below place) (h' : Path.Below next) :
    Path.components (pathOf place) = Path.components (pathOf next) ↔ place = next := by
  rw [components_pathOf h, components_pathOf h', List.cons.injEq]
  exact and_iff_right rfl

theorem pathOf_inj (h : Path.Below place) (h' : Path.Below next) : pathOf place = pathOf next ↔ place = next :=
  ⟨fun heq => (components_pathOf_inj h h').1 (congrArg Path.components heq), congrArg pathOf⟩

theorem denotes_pathOf (h : Path.Below place) (hfile : disk.root.occupant? place = some (.file content)) :
    disk.Denotes (pathOf place) place := by
  have hthere : disk.root.occupant? place ≠ none := by rw [hfile]; simp
  have hroot : disk.root.occupant? [] = some .directory :=
    Tree.occupant?_above (by rwa [List.nil_append]) h.ne_nil
  refine ⟨List.cons_ne_nil _ _, ?_, content, hfile⟩
  rw [split_pathOf h]
  exact .idle hroot rfl (walk_eq_ok_iff.1 ((walk_names_iff h).2 ⟨rfl, hthere⟩))

end Disk

end Files

namespace Target
open Files
variable {disk : Disk} {place : Location} {path target : Text} {directory : Option Text} {roots paths : List Text}

theorem fileLocation?_eq_some_iff :
    fileLocation? disk path = some place ↔
      disk.locate path = .ok place ∧ ∃ content, disk.root.occupant? place = some (.file content) := by
  simp only [Tree.occupant?_eq_file]
  constructor
  · exact fileLocation?_eq_some
  · rintro ⟨hplace, content, hfile⟩
    simp only [fileLocation?, hplace, hfile]

theorem fileLocation?_iff_denotes : fileLocation? disk path = some place ↔ disk.Denotes path place := by
  rw [fileLocation?_eq_some_iff]
  constructor
  · rintro ⟨hplace, hfile⟩
    have hne := Disk.ne_nil_of_locate hplace
    rw [Disk.locate_eq hne] at hplace
    exact ⟨hne, Disk.walk_eq_ok_iff.1 hplace, hfile⟩
  · rintro ⟨hne, hleads, hfile⟩
    exact ⟨by rw [Disk.locate_eq hne, Disk.walk_eq_ok_iff.2 hleads], hfile⟩

theorem below_of_denotes (h : disk.Denotes path place) : Path.Below place := by
  obtain ⟨parts, name, hconcat, -⟩ := fileLocation?_concat (fileLocation?_iff_denotes.2 h)
  refine ⟨by simp [hconcat], h.leads.isName (fun part hm => Text.not_mem_of_mem_split hm) ?_⟩
  exact Disk.isName_of_mem_start path

/-- The first of the paths that denotes a file denotes the one at the place. -/
def Found (disk : Disk) (paths : List Text) (place : Location) : Prop :=
  ∃ before path after, paths = before ++ path :: after ∧ disk.Denotes path place ∧
    ∀ p ∈ before, ∀ place', ¬ disk.Denotes p place'

theorem findSome?_eq_some_iff : paths.findSome? (fileLocation? disk) = some place ↔ Found disk paths place := by
  have hnone : ∀ p, fileLocation? disk p = none ↔ ∀ place', ¬ disk.Denotes p place' := by
    intro p
    rw [Option.eq_none_iff_forall_ne_some]
    exact forall_congr' fun place' => not_congr fileLocation?_iff_denotes
  simp only [List.findSome?_eq_some_iff, fileLocation?_iff_denotes, hnone, Found]

theorem resolve_eq_ok_iff : resolve disk target directory roots = .ok path ↔
    ∃ place, Found disk (candidates target directory roots) place ∧ path = Disk.pathOf place := by
  simp only [← findSome?_eq_some_iff, resolve]
  cases (candidates target directory roots).findSome? (fileLocation? disk) with
  | none => simp
  | some place => simp [eq_comm]

theorem exists_resolve_iff : (∃ path, resolve disk target directory roots = .ok path) ↔
    ∃ candidate ∈ candidates target directory roots, ∃ place, disk.Denotes candidate place := by
  simp only [resolve_eq_ok_iff, ← findSome?_eq_some_iff]
  constructor
  · rintro ⟨_, place, hfind, -⟩
    obtain ⟨candidate, hm, hcandidate⟩ := List.exists_of_findSome?_eq_some hfind
    exact ⟨candidate, hm, place, fileLocation?_iff_denotes.1 hcandidate⟩
  · rintro ⟨candidate, hm, place, hdenotes⟩
    have hsome : ((candidates target directory roots).findSome? (fileLocation? disk)).isSome := by
      rw [List.findSome?_isSome_iff]
      exact ⟨candidate, hm, by rw [fileLocation?_iff_denotes.2 hdenotes]; rfl⟩
    obtain ⟨place', hfind⟩ := Option.isSome_iff_exists.1 hsome
    exact ⟨_, place', hfind, rfl⟩

theorem Found.below (h : Found disk paths place) : Path.Below place := by
  obtain ⟨_, _, _, -, hdenotes, -⟩ := h
  exact below_of_denotes hdenotes

theorem Found.unique {place' : Location} (h : Found disk paths place) (h' : Found disk paths place') :
    place = place' := by
  rw [← findSome?_eq_some_iff] at h h'
  exact Option.some.inj (h.symm.trans h')

theorem Found.denotes_pathOf (h : Found disk paths place) : disk.Denotes (Disk.pathOf place) place := by
  have hbelow := h.below
  obtain ⟨_, _, _, -, ⟨-, -, content, hfile⟩, -⟩ := h
  exact Disk.denotes_pathOf hbelow hfile

theorem resolve_pathOf (h : disk.Denotes (Disk.pathOf place) place) (directory : Option Text) (roots : List Text) :
    resolve disk (Disk.pathOf place) directory roots = .ok (Disk.pathOf place) :=
  resolve_eq_ok_iff.2 ⟨place, ⟨[], Disk.pathOf place, [], rfl, h, by simp⟩, rfl⟩

/-- A target is resolved if one of its candidates denotes a file, to the absolute path of the file that the first of
them denotes, spelled with names only. The path is resolved to itself, and it is the same for two targets exactly if the
file is, as are the components by which a cache remembers the file. -/
theorem resolve_canonical (disk : Disk) (target : Text) (directory : Option Text) (roots : List Text) :
    ((∃ path, resolve disk target directory roots = .ok path) ↔
      ∃ candidate ∈ candidates target directory roots, ∃ place, disk.Denotes candidate place) ∧
    ∀ path, resolve disk target directory roots = .ok path →
      Path.isAbsolute path ∧
      (∀ part ∈ (path.split '/').tail, part ≠ [] ∧ part ≠ Path.dot ∧ part ≠ Path.dotDot) ∧
      (∃ place, Found disk (candidates target directory roots) place ∧ disk.Denotes path place) ∧
      (∀ directory' roots', resolve disk path directory' roots' = .ok path) ∧
      ∀ target' directory' roots' path' place place', resolve disk target' directory' roots' = .ok path' →
        Found disk (candidates target directory roots) place →
        Found disk (candidates target' directory' roots') place' →
        (path = path' ↔ place = place') ∧ (Path.components path = Path.components path' ↔ place = place') := by
  refine ⟨exists_resolve_iff, fun path h => ?_⟩
  obtain ⟨place, hfound, rfl⟩ := resolve_eq_ok_iff.1 h
  have hbelow := hfound.below
  have hdenotes := hfound.denotes_pathOf
  refine ⟨rfl, ?_, ⟨place, hfound, hdenotes⟩, resolve_pathOf hdenotes, ?_⟩
  · rw [Disk.split_pathOf hbelow, List.tail_cons]
    intro part hm
    obtain ⟨hidle, hdots, -⟩ := Path.isName_iff.1 (hbelow.isName part hm)
    refine ⟨?_, ?_, hdots⟩ <;> rintro rfl <;> exact hidle rfl
  · intro target' directory' roots' path' found found' h' hf hf'
    obtain ⟨place', hfound', rfl⟩ := resolve_eq_ok_iff.1 h'
    rw [hf.unique hfound, hf'.unique hfound']
    have hbelow' := hfound'.below
    exact ⟨Disk.pathOf_inj hbelow hbelow', Disk.components_pathOf_inj hbelow hbelow'⟩

/-- A file in a directory next to another file, seen from a working directory that is not the root. -/
def nestedFiles : Disk :=
  ⟨.directory [("w".toList, .directory
    [("d".toList, .directory [("f".toList, .file (.text ['x']))]), ("g".toList, .file (.text []))])], ["w".toList]⟩

/-- Two dots lead nowhere after a file, so the first candidate is passed over. -/
theorem resolve_canonical_nested :
    resolve nestedFiles "../d//./f".toList (some "g".toList) ["d/".toList] = .ok "/w/d/f".toList ∧
      (∀ directory roots, resolve nestedFiles "/w/d/f".toList directory roots = .ok "/w/d/f".toList) ∧
      Found nestedFiles (candidates "../d//./f".toList (some "g".toList) ["d/".toList])
        ["w".toList, "d".toList, "f".toList] := by
  have hresolve : resolve nestedFiles "../d//./f".toList (some "g".toList) ["d/".toList] = .ok "/w/d/f".toList := rfl
  obtain ⟨-, -, -, hagain, -⟩ := (resolve_canonical nestedFiles _ _ _).2 _ hresolve
  exact ⟨hresolve, hagain, findSome?_eq_some_iff.1 rfl⟩

end Target

end Excerpt
