import Excerpt.Files.Write
import Excerpt.Proofs.Occupants

/-!
# Following paths

`Disk.walk` follows the parts of a path from a place. Names lead down (`walk_names_iff`), so a path that is joined to a
base is followed by following the base and then the names (`locate_join_iff`). `Disk.follow` says where parts lead if
every name among them is there; a walk that succeeds ends at that place (`eq_follow_of_walk`), and it still succeeds
after directories and files were added or files got other contents (`Grows.walk`).
-/

namespace Excerpt

namespace Text

theorem split_joinWith {sep : Char} {parts : List Text} (h : ∀ part ∈ parts, sep ∉ part) (hne : parts ≠ []) :
    split sep (joinWith [sep] parts) = parts := by
  induction parts with
  | nil => exact absurd rfl hne
  | cons part rest ih =>
    obtain ⟨hpart, hrest⟩ := List.forall_mem_cons.1 h
    cases rest with
    | nil => exact split_of_not_mem hpart
    | cons next rest =>
      have hjoin : joinWith [sep] (part :: next :: rest) = part ++ sep :: joinWith [sep] (next :: rest) := by
        simp [joinWith]
      rw [hjoin, split_append_cons, split_of_not_mem hpart, ih hrest (List.cons_ne_nil _ _)]
      rfl

end Text

namespace Path
variable {base : Text} {names : List Text}

/-- The names lead from a directory to a place below it. -/
structure Below (names : List Text) : Prop where
  ne_nil : names ≠ []
  isName : ∀ name ∈ names, Path.isName name

/-- The path with the given names. -/
def ofNames (names : List Text) : Text := Text.joinWith ['/'] names

/-- The parts of a base before those of a path that is joined to it. -/
def lead (base : Text) : List Text :=
  if base.isEmpty || base.getLast? == some '/' then (base.split '/').dropLast else base.split '/'

theorem mem_split_of_mem_lead {base part : Text} (h : part ∈ lead base) : part ∈ base.split '/' := by
  rw [lead] at h
  split at h
  · exact List.mem_of_mem_dropLast h
  · exact h

theorem split_ofNames (h : Below names) : (ofNames names).split '/' = names :=
  Text.split_joinWith (fun name hm => (isName_iff.1 (h.isName name hm)).2.2) h.ne_nil

theorem ofNames_inj {names' : List Text} (h : Below names) (h' : Below names') (heq : ofNames names = ofNames names') :
    names = names' := by
  rw [← split_ofNames h, ← split_ofNames h', heq]

theorem isAbsolute_ofNames (h : Below names) : isAbsolute (ofNames names) = false := by
  have hsplit := split_ofNames h
  cases hpath : ofNames names with
  | nil => rfl
  | cons c path =>
    rw [hpath, Text.split] at hsplit
    by_cases hc : c = '/'
    · rw [if_pos hc] at hsplit
      have hname := h.isName [] (hsplit ▸ List.mem_cons_self)
      cases hname
    · simp [isAbsolute, hc]

theorem isAbsolute_join (h : Below names) : isAbsolute (join base (ofNames names)) = isAbsolute base := by
  have hrel := isAbsolute_ofNames h
  rw [join, if_neg (by simp [hrel])]
  cases base with
  | nil => exact hrel
  | cons c base => split <;> rfl

theorem split_join (h : Below names) : (join base (ofNames names)).split '/' = lead base ++ names := by
  rw [join, if_neg (by simp [isAbsolute_ofNames h]), lead]
  split
  next hbase =>
    rcases Bool.or_eq_true_iff.1 hbase with hbase | hbase
    · rw [List.isEmpty_iff.1 hbase]
      exact split_ofNames h
    · obtain ⟨front, rfl⟩ := List.getLast?_eq_some_iff.1 (eq_of_beq hbase)
      rw [List.append_assoc, List.singleton_append, Text.split_append_cons, Text.split_append_cons, split_ofNames h]
      simp [Text.split]
  next => rw [Text.split_append_cons, split_ofNames h]

theorem join_ne_nil (h : Below names) : join base (ofNames names) ≠ [] := by
  intro hnil
  have hsplit : (join base (ofNames names)).split '/' = lead base ++ names := split_join h
  rw [hnil, Text.split] at hsplit
  have hmem : ∀ name ∈ names, name = [] := fun name hm =>
    List.mem_singleton.1 (hsplit ▸ List.mem_append_right _ hm)
  obtain ⟨name, rest, rfl⟩ := List.exists_cons_of_ne_nil h.ne_nil
  have hname := h.isName name List.mem_cons_self
  rw [hmem name List.mem_cons_self] at hname
  cases hname

end Path

namespace Files

namespace Disk
variable {disk disk' disk'' : Disk} {location place next : Location} {part name path base text : Text}
  {parts rest names : List Text} {content : Content}

def walk (disk : Disk) (location : Location) (parts : List Text) : Except DiskError Location :=
  parts.foldlM disk.step location

theorem locate_eq (h : path ≠ []) : disk.locate path = disk.walk (disk.start path) (path.split '/') := by
  rw [locate, if_neg (by simpa using h)]
  rfl

theorem ne_nil_of_locate (h : disk.locate path = .ok place) : path ≠ [] := by
  rintro rfl
  cases h

theorem walk_cons_iff :
    disk.walk location (part :: parts) = .ok place ↔
      ∃ next, disk.step location part = .ok next ∧ disk.walk next parts = .ok place := by
  rw [walk, List.foldlM_cons]
  cases disk.step location part with
  | error e => simp [bind, Except.bind]
  | ok next => simp [bind, Except.bind, walk]

theorem walk_append_iff :
    disk.walk location (parts ++ rest) = .ok place ↔
      ∃ next, disk.walk location parts = .ok next ∧ disk.walk next rest = .ok place := by
  rw [walk, List.foldlM_append]
  show disk.walk location parts >>= _ = _ ↔ _
  cases disk.walk location parts with
  | error e => simp [bind, Except.bind]
  | ok next => simp [bind, Except.bind, walk]

theorem walk_singleton : disk.walk location [part] = disk.step location part :=
  bind_pure (disk.step location part)

/-- A step depends on what is at the place, and for a name on whether anything is there. -/
theorem step_eq (disk : Disk) (location : Location) (part : Text) :
    disk.step location part =
      match disk.root.occupant? location with
      | none => .error .notFound
      | some (.file _) => .error .notDirectory
      | some .directory =>
        if Path.isIdle part then .ok location
        else if part = Path.dotDot then .ok location.dropLast
        else if (disk.root.occupant? (location ++ [part])).isSome then .ok (location ++ [part])
        else .error .notFound := by
  unfold step
  rcases h : disk.root.get? location with _ | ⟨content⟩ | ⟨entries⟩
  · rw [Tree.occupant?_eq_none.2 h]
  · rw [Tree.occupant?_eq_file.2 h]
  · rw [Tree.occupant?_eq_directory.2 ⟨entries, h⟩]
    simp only [Tree.isSome_lookup h]

/-- What one part can do. -/
theorem step_eq_ok_iff : disk.step location part = .ok next ↔ disk.root.occupant? location = some .directory ∧
    (Path.isIdle part ∧ next = location ∨ part = Path.dotDot ∧ next = location.dropLast ∨
      ¬ Path.isIdle part ∧ part ≠ Path.dotDot ∧ disk.root.occupant? next ≠ none ∧ next = location ++ [part]) := by
  rw [step_eq]
  constructor
  · intro h
    split at h
    · cases h
    · cases h
    next hd =>
      refine ⟨hd, ?_⟩
      split at h
      next hidle => cases h; exact .inl ⟨hidle, rfl⟩
      next hidle =>
        split at h
        next hdots => cases h; exact .inr (.inl ⟨hdots, rfl⟩)
        next hdots =>
          split at h
          next hsome => cases h; exact .inr (.inr ⟨hidle, hdots, Option.isSome_iff_ne_none.1 hsome, rfl⟩)
          next => cases h
  · rintro ⟨hd, ⟨hidle, rfl⟩ | ⟨rfl, rfl⟩ | ⟨hidle, hdots, hn, rfl⟩⟩ <;> rw [hd]
    · exact if_pos hidle
    · rfl
    · simp only
      rw [if_neg hidle, if_neg hdots, if_pos (Option.isSome_iff_ne_none.2 hn)]

theorem directory_of_step (h : disk.step location part = .ok next) :
    disk.root.occupant? location = some .directory := by
  obtain ⟨entries, hentries, -⟩ := step_cases h
  exact Tree.occupant?_eq_directory.2 ⟨entries, hentries⟩

theorem directory_of_walk (h : disk.walk location parts = .ok next) (hne : parts ≠ []) :
    disk.root.occupant? location = some .directory := by
  obtain ⟨part, parts, rfl⟩ := List.exists_cons_of_ne_nil hne
  obtain ⟨_, hstep, -⟩ := walk_cons_iff.1 h
  exact directory_of_step hstep

theorem step_name_iff (h : Path.isName name) :
    disk.step location name = .ok next ↔ next = location ++ [name] ∧ disk.root.occupant? next ≠ none := by
  obtain ⟨hidle, hdots, -⟩ := Path.isName_iff.1 h
  rw [step_eq]
  constructor
  · intro hstep
    split at hstep
    · cases hstep
    · cases hstep
    · rw [if_neg hidle, if_neg hdots] at hstep
      split at hstep
      next hsome =>
        cases hstep
        exact ⟨rfl, Option.isSome_iff_ne_none.1 hsome⟩
      next => cases hstep
  · rintro ⟨rfl, hsome⟩
    rw [Tree.occupant?_above hsome (List.cons_ne_nil _ _)]
    simp only
    rw [if_neg hidle, if_neg hdots, if_pos (Option.isSome_iff_ne_none.2 hsome)]

/-- Names lead down to what is there. -/
theorem walk_names_iff (h : Path.Below names) :
    disk.walk location names = .ok place ↔ place = location ++ names ∧ disk.root.occupant? place ≠ none := by
  obtain ⟨hne, hnames⟩ := h
  induction names generalizing location with
  | nil => exact absurd rfl hne
  | cons name names ih =>
    obtain ⟨hname, hrest⟩ := List.forall_mem_cons.1 hnames
    rw [walk_cons_iff]
    by_cases hnil : names = []
    · subst hnil
      simp only [step_name_iff hname]
      constructor
      · rintro ⟨next, ⟨rfl, hsome⟩, hplace⟩
        cases hplace
        exact ⟨rfl, hsome⟩
      · rintro ⟨rfl, hsome⟩
        exact ⟨_, ⟨rfl, hsome⟩, rfl⟩
    · simp only [step_name_iff hname, ih hnil hrest]
      constructor
      · rintro ⟨next, ⟨rfl, -⟩, rfl, hsome⟩
        rw [List.append_assoc, List.singleton_append] at hsome ⊢
        exact ⟨rfl, hsome⟩
      · rintro ⟨rfl, hsome⟩
        have hsplit : location ++ name :: names = location ++ [name] ++ names := by
          rw [List.append_assoc, List.singleton_append]
        have hdirectory := Tree.occupant?_above (hsplit ▸ hsome) hnil
        exact ⟨_, ⟨rfl, by rw [hdirectory]; simp⟩, hsplit, hsome⟩

theorem start_join (h : Path.Below names) : disk.start (Path.join base (Path.ofNames names)) = disk.start base := by
  rw [start, start, Path.isAbsolute_join h]

/-- Where a path leads that is joined to a base. -/
theorem locate_join_iff (h : Path.Below names) :
    disk.locate (Path.join base (Path.ofNames names)) = .ok place ↔
      ∃ root, disk.walk (disk.start base) (Path.lead base) = .ok root ∧ place = root ++ names ∧
        disk.root.occupant? place ≠ none := by
  rw [locate_eq (Path.join_ne_nil h), start_join h, Path.split_join h, walk_append_iff]
  simp only [walk_names_iff h]

/-! ### Reading -/

theorem readText_eq_ok_iff :
    disk.readText path = .ok text ↔
      ∃ place, disk.locate path = .ok place ∧ disk.root.occupant? place = some (.file (.text text)) := by
  unfold readText
  cases disk.locate path with
  | error e => simp
  | ok place =>
    rcases h : disk.root.get? place with _ | ⟨content⟩ | ⟨entries⟩
    · simp [Tree.occupant?, h]
    · cases content <;> simp [Tree.occupant?, Tree.occupant, h, Content.text?]
    · simp [Tree.occupant?, Tree.occupant, h]

/-- The text of the file at a place. -/
def textAt? (disk : Disk) (place : Location) : Option Text :=
  match disk.root.occupant? place with
  | some (.file content) => content.text?
  | _ => none

theorem textAt?_eq_some_iff :
    disk.textAt? place = some text ↔ disk.root.occupant? place = some (.file (.text text)) := by
  unfold textAt?
  rcases disk.root.occupant? place with _ | ⟨_ | _⟩ | _ <;> simp [Content.text?]

theorem toOption_eq_some_iff {ε α : Type} {x : Except ε α} {a : α} : x.toOption = some a ↔ x = .ok a := by
  cases x <;> simp [Except.toOption]

/-- What is read at a path that is joined to a base, if the base leads somewhere. -/
theorem readText_join {root : Location} (h : Path.Below names)
    (hroot : disk.walk (disk.start base) (Path.lead base) = .ok root) :
    (disk.readText (Path.join base (Path.ofNames names))).toOption = disk.textAt? (root ++ names) := by
  apply Option.ext
  intro text
  rw [toOption_eq_some_iff, readText_eq_ok_iff, textAt?_eq_some_iff]
  constructor
  · rintro ⟨place, hplace, hfile⟩
    obtain ⟨root', hroot', rfl, -⟩ := (locate_join_iff h).1 hplace
    rw [hroot] at hroot'
    cases hroot'
    exact hfile
  · intro hfile
    exact ⟨root ++ names, (locate_join_iff h).2 ⟨root, hroot, rfl, by rw [hfile]; simp⟩, hfile⟩

/-! ### Where parts lead -/

/-- Where a part leads, if it is no name or its name is there. -/
def turn (place : Location) (part : Text) : Location :=
  if Path.isIdle part then place else if part = Path.dotDot then place.dropLast else place ++ [part]

/-- Where parts lead, if every name among them is there. -/
def follow (place : Location) (parts : List Text) : Location := parts.foldl turn place

theorem turn_idle (h : Path.isIdle part) : turn place part = place := if_pos h

/-- From a directory, parts that are no names lead to directories. -/
theorem directory_turn (h : disk.root.occupant? place = some .directory)
    (hpart : Path.isIdle part ∨ part = Path.dotDot) : disk.root.occupant? (turn place part) = some .directory := by
  rw [turn]
  split
  · exact h
  next hidle =>
    rw [if_pos (hpart.resolve_left hidle)]
    rcases List.eq_nil_or_concat place with rfl | ⟨above, name, rfl⟩
    · exact h
    · rw [List.concat_eq_append, List.dropLast_concat]
      exact Tree.occupant?_above (by rw [List.concat_eq_append] at h; rw [h]; simp) (List.cons_ne_nil name [])

theorem step_eq_turn (h : disk.root.occupant? place = some .directory) (part : Text) :
    disk.step place part =
      if (disk.root.occupant? (turn place part)).isSome then .ok (turn place part) else .error .notFound := by
  rw [step_eq, h]
  simp only
  by_cases hidle : Path.isIdle part
  · rw [directory_turn h (.inl hidle), turn_idle hidle, if_pos hidle]
    rfl
  · by_cases hdots : part = Path.dotDot
    · rw [directory_turn h (.inr hdots), turn, if_neg hidle, if_pos hdots, if_neg hidle, if_pos hdots]
      rfl
    · rw [turn, if_neg hidle, if_neg hdots, if_neg hidle, if_neg hdots]

theorem eq_follow_of_walk (h : disk.walk location parts = .ok place) : place = follow location parts := by
  induction parts generalizing location with
  | nil =>
    cases h
    rfl
  | cons part parts ih =>
    obtain ⟨next, hstep, hrest⟩ := walk_cons_iff.1 h
    rw [step_eq_turn (directory_of_step hstep) part] at hstep
    split at hstep
    · cases hstep
      exact ih hrest
    · cases hstep

theorem prefix_follow (h : Path.dotDot ∉ parts) (place : Location) : place <+: follow place parts := by
  induction parts generalizing place with
  | nil => exact List.prefix_rfl
  | cons part parts ih =>
    obtain ⟨hpart, hrest⟩ := List.ne_and_not_mem_of_not_mem_cons h
    refine .trans ?_ (ih hrest (turn place part))
    rw [turn]
    split
    · exact List.prefix_rfl
    · rw [if_neg (Ne.symm hpart)]
      exact List.prefix_append _ _

/-- Parts that lead up nowhere lead to a directory that is there. -/
theorem walk_of_directory (h : Path.dotDot ∉ parts)
    (hd : disk.root.occupant? (follow location parts) = some .directory) :
    disk.walk location parts = .ok (follow location parts) := by
  induction parts generalizing location with
  | nil => rfl
  | cons part parts ih =>
    have hrest := (List.ne_and_not_mem_of_not_mem_cons h).2
    have hlocation := Tree.directory_of_prefix (prefix_follow h location) hd
    have hturn := Tree.directory_of_prefix (prefix_follow hrest (turn location part)) hd
    refine walk_cons_iff.2 ⟨turn location part, ?_, ih hrest hd⟩
    rw [step_eq_turn hlocation, hturn]
    rfl

/-! ### Growth -/

/-- What is there stays there, and a directory stays one. -/
structure Grows (disk disk' : Disk) : Prop where
  workingDirectory : disk'.workingDirectory = disk.workingDirectory
  occupied : ∀ place, disk.root.occupant? place ≠ none → disk'.root.occupant? place ≠ none
  directory : ∀ place, disk.root.occupant? place = some .directory → disk'.root.occupant? place = some .directory

namespace Grows

theorem refl (disk : Disk) : Grows disk disk := ⟨rfl, fun _ h => h, fun _ h => h⟩

theorem trans (h : Grows disk disk') (h' : Grows disk' disk'') : Grows disk disk'' where
  workingDirectory := h'.workingDirectory.trans h.workingDirectory
  occupied place hp := h'.occupied place (h.occupied place hp)
  directory place hp := h'.directory place (h.directory place hp)

theorem start (h : Grows disk disk') (path : Text) : disk'.start path = disk.start path := by
  rw [Disk.start, Disk.start, h.workingDirectory]

theorem step (h : Grows disk disk') (hs : disk.step location part = .ok next) :
    disk'.step location part = .ok next := by
  obtain ⟨hd, hcases⟩ := step_eq_ok_iff.1 hs
  refine step_eq_ok_iff.2 ⟨h.directory location hd, ?_⟩
  rcases hcases with hidle | hdots | ⟨hidle, hdots, hn, hnext⟩
  · exact .inl hidle
  · exact .inr (.inl hdots)
  · exact .inr (.inr ⟨hidle, hdots, h.occupied next hn, hnext⟩)

theorem walk (h : Grows disk disk') (hw : disk.walk location parts = .ok place) :
    disk'.walk location parts = .ok place := by
  induction parts generalizing location with
  | nil => exact hw
  | cons part parts ih =>
    obtain ⟨next, hstep, hrest⟩ := walk_cons_iff.1 hw
    exact walk_cons_iff.2 ⟨next, h.step hstep, ih hrest⟩

theorem walk_start (h : Grows disk disk') (hw : disk.walk (disk.start path) parts = .ok place) :
    disk'.walk (disk'.start path) parts = .ok place := by
  rw [h.start]
  exact h.walk hw

theorem locate (h : Grows disk disk') (hl : disk.locate path = .ok place) : disk'.locate path = .ok place := by
  have hne := ne_nil_of_locate hl
  rw [locate_eq hne] at hl ⊢
  exact h.walk_start hl

end Grows

end Disk

end Files

end Excerpt
