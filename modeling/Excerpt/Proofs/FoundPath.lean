import Excerpt.Target

/-!
# The paths of files that were found

A target that leads to a file gives the absolute path of the location of the file. `Target.Names` says that a path is
one of those. Such a path ends in the name of the file, so the parts of it that do not count can be left out when it
is followed (`Target.locate_pathOf`), and what is read at it depends on its components alone
(`Target.Names.readText_eq`).
-/

namespace Excerpt

namespace Text
variable {sep : Char} {t u part : Text}

theorem split_append_cons (t u : Text) : split sep (t ++ sep :: u) = split sep t ++ split sep u := by
  induction t with
  | nil => simp [split]
  | cons c t ih =>
    rw [List.cons_append, split, split, ih]
    split
    · rfl
    · obtain ⟨first, rest, h⟩ := List.exists_cons_of_ne_nil (split_ne_nil sep t)
      rw [h]
      rfl

theorem split_of_not_mem (h : sep ∉ t) : split sep t = [t] := by
  induction t with
  | nil => rfl
  | cons c t ih =>
    rw [List.mem_cons, not_or] at h
    rw [split, if_neg (Ne.symm h.1), ih h.2]

theorem not_mem_of_mem_split (h : part ∈ split sep t) : sep ∉ part := by
  induction t generalizing part with
  | nil =>
    rw [List.mem_singleton.1 h]
    simp
  | cons c t ih =>
    obtain ⟨first, rest, ht⟩ := List.exists_cons_of_ne_nil (split_ne_nil sep t)
    rw [ht] at ih
    rw [split, ht] at h
    split at h
    · rcases List.mem_cons.1 h with rfl | h
      · simp
      · exact ih h
    next hc =>
      rcases List.mem_cons.1 h with rfl | h
      · rw [List.mem_cons, not_or]
        exact ⟨Ne.symm hc, ih List.mem_cons_self⟩
      · exact ih (List.mem_cons_of_mem _ h)

end Text

namespace Files

namespace Tree

theorem get?_append (tree : Tree) (location rest : Location) :
    tree.get? (location ++ rest) = (tree.get? location).bind fun part => part.get? rest := by
  induction location generalizing tree with
  | nil => simp [get?]
  | cons name location ih =>
    cases tree with
    | file content => simp [get?]
    | directory entries =>
      rw [List.cons_append, get?, get?]
      cases entries.lookup name with
      | none => rfl
      | some entry => exact ih entry

/-- What is above a part of the tree is a directory. -/
theorem get?_dropLast {tree part : Tree} {location : Location} (h : tree.get? location = some part)
    (hne : location ≠ []) : ∃ entries, tree.get? location.dropLast = some (.directory entries) := by
  rw [← List.dropLast_concat_getLast hne, get?_append] at h
  obtain ⟨above, habove, hpart⟩ := Option.bind_eq_some_iff.1 h
  cases above with
  | file content => simp [get?] at hpart
  | directory entries => exact ⟨entries, habove⟩

end Tree

namespace Disk
variable {disk : Disk} {location : Location}

/-- Either the location is a directory, or no part of a path leads on from it. -/
theorem directory_or_step_error (disk : Disk) (location : Location) :
    (∃ entries, disk.root.get? location = some (.directory entries)) ∨
      ∃ e, ∀ part, disk.step location part = .error e := by
  cases h : disk.root.get? location with
  | none => exact .inr ⟨.notFound, fun part => by simp [step, h]⟩
  | some tree =>
    cases tree with
    | file content => exact .inr ⟨.notDirectory, fun part => by simp [step, h]⟩
    | directory entries => exact .inl ⟨entries, rfl⟩

/-- What one part of a path can do. -/
theorem step_cases {part : Text} {above : Location} (h : disk.step above part = .ok location) :
    ∃ entries, disk.root.get? above = some (.directory entries) ∧
      (location = above ∨ location = above.dropLast ∨ location = above ++ [part] ∧ ¬ Path.isIdle part) := by
  unfold step at h
  split at h
  · cases h
  · cases h
  next entries hentries =>
    refine ⟨entries, hentries, ?_⟩
    split at h
    · cases h; exact .inl rfl
    next hidle =>
      split at h
      · cases h; exact .inr (.inl rfl)
      · split at h
        · cases h; exact .inr (.inr ⟨rfl, hidle⟩)
        · cases h

theorem step_idle {entries : List (Text × Tree)} {part : Text} (h : disk.root.get? location = some (.directory entries))
    (hp : Path.isIdle part) : disk.step location part = .ok location := by
  simp [step, h, hp]

/-- Idle parts can be left out of a path whose last part is not idle. -/
theorem foldlM_step_filter (disk : Disk) (parts : List Text) {name : Text} (hn : ¬ Path.isIdle name)
    (location : Location) :
    (parts ++ [name]).foldlM disk.step location =
      ((parts ++ [name]).filter fun part => !Path.isIdle part).foldlM disk.step location := by
  have hname : [name].filter (fun part => !Path.isIdle part) = [name] := by simp [hn]
  induction parts generalizing location with
  | nil => rw [List.nil_append, hname]
  | cons part parts ih =>
    by_cases hp : Path.isIdle part
    · rw [List.cons_append, List.filter_cons_of_neg (by simp [hp]), List.foldlM_cons]
      rcases directory_or_step_error disk location with ⟨entries, h⟩ | ⟨e, he⟩
      · rw [step_idle h hp]
        exact ih location
      · -- the part that comes next fails here as the idle one does
        obtain ⟨next, rest, hrest⟩ :
            ∃ next rest, (parts ++ [name]).filter (fun part => !Path.isIdle part) = next :: rest :=
          List.exists_cons_of_ne_nil fun hnil => by
            rw [List.filter_append, hname] at hnil
            exact List.cons_ne_nil _ _ (List.append_eq_nil_iff.1 hnil).2
        rw [hrest, List.foldlM_cons, he, he]
        rfl
    · rw [List.cons_append, List.filter_cons_of_pos (by simp [hp]), List.foldlM_cons, List.foldlM_cons]
      exact congrArg (disk.step location part >>= ·) (funext ih)

theorem pathOf_concat (parts : Location) (name : Text) :
    ∃ before, pathOf (parts ++ [name]) = before ++ '/' :: name := by
  suffices h : ∀ parts : Location, parts = [] ∨
      ∃ before, Text.joinWith ['/'] (parts ++ [name]) = before ++ '/' :: name by
    rcases h parts with rfl | ⟨before, h⟩
    · exact ⟨[], rfl⟩
    · exact ⟨'/' :: before, congrArg ('/' :: ·) h⟩
  intro parts
  induction parts with
  | nil => exact .inl rfl
  | cons first parts ih =>
    refine .inr ?_
    rcases ih with rfl | ⟨before, h⟩
    · exact ⟨first, by simp [Text.joinWith]⟩
    · obtain ⟨next, rest, hrest⟩ : ∃ next rest, parts ++ [name] = next :: rest :=
        List.exists_cons_of_ne_nil (by simp)
      rw [hrest] at h
      exact ⟨first ++ '/' :: before, by simp [hrest, Text.joinWith, h]⟩

end Disk

end Files

namespace Target
open Files
variable {disk : Disk} {path : Text} {location : Location}

theorem fileLocation?_eq_some (h : fileLocation? disk path = some location) :
    disk.locate path = .ok location ∧ ∃ content, disk.root.get? location = some (.file content) := by
  unfold fileLocation? at h
  split at h
  next l hl =>
    split at h
    next content hc =>
      cases h
      exact ⟨hl, content, hc⟩
    next => cases h
  next => cases h

/-- The location of a file that was found ends in the last part of the path that led to it, which is a name. -/
theorem fileLocation?_concat (h : fileLocation? disk path = some location) :
    ∃ parts name, location = parts ++ [name] ∧ ¬ Path.isIdle name ∧ '/' ∉ name := by
  obtain ⟨hl, content, hfile⟩ := fileLocation?_eq_some h
  unfold Disk.locate at hl
  split at hl
  · cases hl
  have hne := Text.split_ne_nil '/' path
  have hslash : '/' ∉ (path.split '/').getLast hne := Text.not_mem_of_mem_split (List.getLast_mem hne)
  rw [← List.dropLast_concat_getLast hne, List.foldlM_append] at hl
  cases habove : (path.split '/').dropLast.foldlM disk.step (disk.start path) with
  | error e => rw [habove] at hl; cases hl
  | ok above =>
    rw [habove] at hl
    have hstep : disk.step above ((path.split '/').getLast hne) = .ok location := by
      rwa [← bind_pure (disk.step above _)]
    -- a step that adds no name ends at a directory
    obtain ⟨entries, hdir, rfl | rfl | ⟨rfl, hidle⟩⟩ := Disk.step_cases hstep
    · rw [hdir] at hfile; cases hfile
    · by_cases hnil : above = []
      · subst hnil
        rw [List.dropLast_nil, hdir] at hfile; cases hfile
      · obtain ⟨entries', hdir'⟩ := Tree.get?_dropLast hdir hnil
        rw [hdir'] at hfile; cases hfile
    · exact ⟨above, _, rfl, hidle, hslash⟩

/-- The path of a file that was found is followed by its components. -/
theorem locate_pathOf (h : fileLocation? disk path = some location) :
    disk.locate (Disk.pathOf location) = (Path.components (Disk.pathOf location)).tail.foldlM disk.step [] := by
  obtain ⟨parts, name, rfl, hidle, hslash⟩ := fileLocation?_concat h
  obtain ⟨before, hpath⟩ := Disk.pathOf_concat parts name
  have hsplit : (Disk.pathOf (parts ++ [name])).split '/' = before.split '/' ++ [name] := by
    rw [hpath, Text.split_append_cons, Text.split_of_not_mem hslash]
  have habs : Path.isAbsolute (Disk.pathOf (parts ++ [name])) = true := rfl
  rw [Disk.locate, if_neg (by simp [Disk.pathOf]), Disk.start, if_pos habs, Path.components]
  simp only [habs, if_true, List.tail_cons, hsplit]
  exact Disk.foldlM_step_filter disk _ hidle []

/-- The path is the absolute path of a file to which some path led. -/
def Names (disk : Disk) (path : Text) : Prop :=
  ∃ asked location, fileLocation? disk asked = some location ∧ Disk.pathOf location = path

theorem names_of_resolve {target : Text} {directory : Option Text} {roots : List Text}
    (h : resolve disk target directory roots = .ok path) : Names disk path := by
  simp only [resolve] at h
  split at h
  next location hfind =>
    cases h
    obtain ⟨asked, -, hasked⟩ := List.exists_of_findSome?_eq_some hfind
    exact ⟨asked, location, hasked, rfl⟩
  next => cases h

/-- What is read at the path of a file depends on its components alone. -/
theorem Names.readText_eq {path' : Text} (h : Names disk path) (h' : Names disk path')
    (hc : Path.components path = Path.components path') : disk.readText path = disk.readText path' := by
  obtain ⟨_, _, hfile, rfl⟩ := h
  obtain ⟨_, _, hfile', rfl⟩ := h'
  unfold Disk.readText
  rw [locate_pathOf hfile, locate_pathOf hfile', hc]

end Target

end Excerpt
