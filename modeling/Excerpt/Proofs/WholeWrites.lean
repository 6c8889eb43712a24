import Excerpt.Proofs.PathComponents
import Mathlib.Logic.Relation

/-!
# Writing a whole file

Making directories only adds directories where nothing was (`Extends`). The text then goes to a draft in the last of
them (`Drafts`). Removing the draft undoes that, so a draft that is moved is a file that came to the place of the path
(`Drafts.moveFile`), and one that cannot be moved leaves no trace. Afterwards the path leads to the text, and every
other place keeps what it has (`writeWhole_ok`).
-/

namespace Excerpt

namespace Files

namespace Disk
variable {disk disk' disk'' : Disk} {location place other : Location} {path text : Text} {part : Tree}
  {parts above below : List Text}

/-- A file or an empty directory came to a place where no directory was. Nothing else changed, and nothing at all apart
from the directory that it is in. -/
structure Puts (disk : Disk) (place : Location) (part : Tree) (disk' : Disk) : Prop where
  workingDirectory : disk'.workingDirectory = disk.workingDirectory
  free : disk.root.occupant? place ≠ some .directory
  occupant? : ∀ other,
    disk'.root.occupant? other = if other = place then some part.occupant else disk.root.occupant? other
  get? : ∀ other, ¬ place.dropLast <+: other → ¬ other <+: place.dropLast →
    disk'.root.get? other = disk.root.get? other

theorem not_prefix_concat (h : ¬ location <+: other) (h' : ¬ other <+: location) (name : Text) :
    ¬ location ++ [name] <+: other ∧ ¬ other <+: location ++ [name] := by
  have hbelow : ¬ location ++ [name] <+: other := fun hp => h ((List.prefix_append location [name]).trans hp)
  refine ⟨hbelow, fun hp => ?_⟩
  rcases List.prefix_concat_iff.1 hp with rfl | hp
  · exact hbelow List.prefix_rfl
  · exact h' hp

namespace Puts

theorem of_put {name : Text} (habove : disk.root.occupant? location = some .directory)
    (hfree : disk.root.occupant? (location ++ [name]) ≠ some .directory) (hpart : part.entries = []) :
    Puts disk (location ++ [name]) part { disk with root := disk.root.put (location ++ [name]) part } where
  workingDirectory := rfl
  free := hfree
  occupant? other := Tree.occupant?_put habove hfree hpart other
  get? other h h' := by
    rw [List.dropLast_concat] at h h'
    obtain ⟨hbelow, hover⟩ := not_prefix_concat h h' name
    exact Tree.get?_put_apart part hbelow hover

theorem occupant?_self (h : Puts disk place part disk') : disk'.root.occupant? place = some part.occupant := by
  rw [h.occupant?, if_pos rfl]

theorem occupant?_of_ne (h : Puts disk place part disk') (hne : other ≠ place) :
    disk'.root.occupant? other = disk.root.occupant? other := by
  rw [h.occupant?, if_neg hne]

theorem directory (h : Puts disk place part disk') (ho : disk.root.occupant? other = some .directory) :
    disk'.root.occupant? other = some .directory := by
  rwa [h.occupant?_of_ne fun heq => h.free (heq ▸ ho)]

theorem grows (h : Puts disk place part disk') : Grows disk disk' where
  workingDirectory := h.workingDirectory
  occupied other ho := by
    rw [h.occupant?]
    split
    · simp
    · exact ho
  directory _ ho := h.directory ho

end Puts

/-- Directories were added where nothing was. -/
structure Extends (disk disk' : Disk) : Prop where
  workingDirectory : disk'.workingDirectory = disk.workingDirectory
  occupant? : ∀ place, disk'.root.occupant? place = disk.root.occupant? place ∨
    disk.root.occupant? place = none ∧ disk'.root.occupant? place = some .directory

namespace Extends

theorem refl (disk : Disk) : Extends disk disk := ⟨rfl, fun _ => .inl rfl⟩

theorem trans (h : Extends disk disk') (h' : Extends disk' disk'') : Extends disk disk'' := by
  refine ⟨h'.workingDirectory.trans h.workingDirectory, fun place => ?_⟩
  rcases h.occupant? place with heq | ⟨hnone, hdirectory⟩
  · rcases h'.occupant? place with heq' | ⟨hnone', hdirectory'⟩
    · exact .inl (heq'.trans heq)
    · exact .inr ⟨heq ▸ hnone', hdirectory'⟩
  · rcases h'.occupant? place with heq' | ⟨hnone', -⟩
    · exact .inr ⟨hnone, heq'.trans hdirectory⟩
    · rw [hdirectory] at hnone'
      cases hnone'

theorem grows (h : Extends disk disk') : Grows disk disk' where
  workingDirectory := h.workingDirectory
  occupied place hp := by
    rcases h.occupant? place with heq | ⟨hnone, -⟩
    · rwa [heq]
    · exact absurd hnone hp
  directory place hp := by
    rcases h.occupant? place with heq | ⟨-, hdirectory⟩
    · rwa [heq]
    · exact hdirectory

/-- No file is added. -/
theorem file {content : Content} (h : Extends disk disk') (hp : disk'.root.occupant? place = some (.file content)) :
    disk.root.occupant? place = some (.file content) := by
  rcases h.occupant? place with heq | ⟨-, hdirectory⟩
  · rwa [heq] at hp
  · rw [hdirectory] at hp
    cases hp

end Extends

/-! ### Slots -/

theorem walk_of_forall_isIdle (h : disk.root.occupant? location = some .directory)
    (hparts : ∀ part ∈ parts, Path.isIdle part) : disk.walk location parts = .ok location := by
  obtain ⟨entries, hentries⟩ := Tree.occupant?_eq_directory.1 h
  induction parts with
  | nil => rfl
  | cons part parts ih =>
    obtain ⟨hpart, hrest⟩ := List.forall_mem_cons.1 hparts
    exact walk_cons_iff.2 ⟨location, step_idle hentries hpart, ih hrest⟩

/-- The path of a slot leads to its directory, and then the name and empty parts follow. -/
theorem slot_cases {slot : Slot} (h : disk.slot path = .ok slot) (hname : slot.isNameless = false) :
    path ≠ [] ∧ Path.isName slot.name ∧ disk.root.occupant? slot.directory = some .directory ∧
      ∃ front back, path.split '/' = front ++ slot.name :: back ∧ (∀ part ∈ back, part = []) ∧
        (slot.slash = false → back = []) ∧ disk.walk (disk.start path) front = .ok slot.directory := by
  unfold Disk.slot at h
  split at h
  next => cases h
  next hpath =>
    have hpath : path ≠ [] := by simpa using hpath
    have hparts : (path.split '/').reverse =
        (path.split '/').reverse.takeWhile List.isEmpty ++ (path.split '/').reverse.dropWhile List.isEmpty :=
      List.takeWhile_append_dropWhile.symm
    have hback : ∀ part ∈ (path.split '/').reverse.takeWhile List.isEmpty, part = [] := fun part hm =>
      List.isEmpty_iff.1 (List.all_eq_true.1 List.all_takeWhile part hm)
    generalize (path.split '/').reverse.takeWhile List.isEmpty = back at hparts hback
    simp only at h
    generalize (path.split '/').reverse.dropWhile List.isEmpty = ending at hparts h
    split at h
    next => cases h
    next directory hwalk =>
      split at h
      next entries hentries =>
        cases h
        cases ending with
        | nil => cases hname
        | cons name front =>
          have hsplit : path.split '/' = front.reverse ++ name :: back.reverse := by
            rw [← List.reverse_reverse (path.split '/'), hparts]
            simp
          have hslash : '/' ∉ name := Text.not_mem_of_mem_split (hsplit ▸ List.mem_append_right _ List.mem_cons_self)
          rw [Slot.isNameless, Bool.or_eq_false_iff] at hname
          refine ⟨hpath, ?_, Tree.occupant?_eq_directory.2 ⟨entries, hentries⟩, front.reverse, back.reverse, hsplit, ?_,
            ?_, hwalk⟩
          · exact Path.isName_iff.2 ⟨by simpa using hname.1, by simpa using hname.2, hslash⟩
          · simpa using hback
          · intro hslash
            rw [hparts] at hslash
            simpa using hslash
      next => cases h
      next => cases h

/-- The path of a slot leads to what was put there. -/
theorem locate_slot {slot : Slot} (h : disk.slot path = .ok slot) (hname : slot.isNameless = false)
    (hputs : Puts disk slot.location part disk') (hpart : part.occupant = .directory ∨ slot.slash = false) :
    disk'.locate path = .ok slot.location := by
  obtain ⟨hpath, hisName, hdirectory, front, back, hsplit, hback, hslash, hwalk⟩ := slot_cases h hname
  have hoccupant := hputs.occupant?_self
  have hstep : disk'.step slot.directory slot.name = .ok slot.location :=
    (step_name_iff hisName).2 ⟨rfl, by rw [hoccupant]; simp⟩
  have hrest : disk'.walk slot.location back = .ok slot.location := by
    rcases hpart with hpart | hpart
    · refine walk_of_forall_isIdle (by rw [hoccupant, hpart]) fun part hm => ?_
      rw [hback part hm]
      rfl
    · rw [hslash hpart]
      rfl
  rw [locate_eq hpath, hputs.grows.start, hsplit]
  exact walk_append_iff.2 ⟨_, hputs.grows.walk hwalk, walk_cons_iff.2 ⟨_, hstep, hrest⟩⟩

/-! ### Directories -/

theorem makeDirectory_ok (h : disk.makeDirectory path = .ok disk') :
    ∃ place, Puts disk place .empty disk' ∧ disk.root.occupant? place = none ∧ disk'.locate path = .ok place := by
  unfold makeDirectory at h
  split at h
  next => cases h
  next slot hslot =>
    split at h
    next => cases h
    next hfree =>
      cases h
      rw [Bool.or_eq_true, not_or, Bool.not_eq_true, Option.not_isSome_iff_eq_none] at hfree
      obtain ⟨hname, hfree⟩ := hfree
      have hnone : disk.root.occupant? slot.location = none := Tree.occupant?_eq_none.2 hfree
      have hputs : Puts disk slot.location .empty { disk with root := disk.root.put slot.location .empty } :=
        .of_put (slot_cases hslot hname).2.2.1 (by rw [← Slot.location, hnone]; simp) rfl
      exact ⟨_, hputs, hnone, locate_slot hslot hname hputs (.inl rfl)⟩

theorem Extends.of_makeDirectory (h : disk.makeDirectory path = .ok disk') : Extends disk disk' := by
  obtain ⟨place, hputs, hnone, -⟩ := makeDirectory_ok h
  refine ⟨hputs.grows.workingDirectory, fun other => ?_⟩
  by_cases hother : other = place
  · subst hother
    exact .inr ⟨hnone, hputs.occupant?_self⟩
  · exact .inl (hputs.occupant?_of_ne hother)

theorem isDirectory_iff :
    disk.isDirectory path = true ↔
      ∃ place, disk.locate path = .ok place ∧ disk.root.occupant? place = some .directory := by
  unfold isDirectory entry?
  cases disk.locate path with
  | error e => simp
  | ok place =>
    rcases h : disk.root.get? place with _ | ⟨content⟩ | ⟨entries⟩ <;> simp [Tree.occupant?, Tree.occupant, h]

theorem Grows.isDirectory (hgrows : Grows disk disk') (h : disk.isDirectory path) : disk'.isDirectory path := by
  obtain ⟨place, hplace, hdirectory⟩ := isDirectory_iff.1 h
  exact isDirectory_iff.2 ⟨place, hgrows.locate hplace, hgrows.directory place hdirectory⟩

/-- A directory that is there is not made. -/
theorem ensureDirectory_of_isDirectory (h : disk.isDirectory path) : disk.ensureDirectory path = .ok disk := by
  unfold ensureDirectory
  split
  next made hmade =>
    obtain ⟨place, hplace, hdirectory⟩ := isDirectory_iff.1 h
    obtain ⟨place', hputs, hnone, hplace'⟩ := makeDirectory_ok hmade
    have heq := hputs.grows.locate hplace
    rw [hplace'] at heq
    cases heq
    rw [hdirectory] at hnone
    cases hnone
  next => rw [if_pos h]

theorem ensureDirectory_ok (h : disk.ensureDirectory path = .ok disk') :
    disk' = disk ∧ disk.isDirectory path ∨ disk.makeDirectory path = .ok disk' := by
  unfold ensureDirectory at h
  split at h
  next made hmade =>
    cases h
    exact .inr hmade
  next =>
    split at h
    next hdirectory =>
      cases h
      exact .inl ⟨rfl, hdirectory⟩
    next => cases h

/-- A directory was made whose path has the components `above` and then some of `below`, from right to left. -/
def MakesBelow (above below : List Text) (disk disk' : Disk) : Prop :=
  ∃ part, part ≠ [] ∧ part <:+ below ∧ disk.makeDirectory (Path.ofComponents (part ++ above).reverse) = .ok disk'

/-- Making a directory and those above it makes one directory after the other, and none of those above one that is
there. -/
theorem makeDirectories_reach (h : above = [] ∨ disk.isDirectory (Path.ofComponents above.reverse)) :
    Relation.ReflTransGen (MakesBelow above below) disk (disk.makeDirectories (below ++ above)).1 := by
  induction below with
  | nil =>
    cases above with
    | nil => exact .refl
    | cons last above =>
      have hdirectory := h.resolve_left (List.cons_ne_nil _ _)
      rw [List.nil_append, makeDirectories]
      simp only [ensureDirectory_of_isDirectory hdirectory]
      exact .refl
  | cons last below ih =>
    have hmono : MakesBelow above below ≤ MakesBelow above (last :: below) := by
      rintro d d' ⟨part, hne, hsuffix, hmade⟩
      exact ⟨part, hne, hsuffix.trans (List.suffix_cons last below), hmade⟩
    have ih := Relation.ReflTransGen.mono hmono _ _ ih
    have hlast : ∀ d d', d.ensureDirectory (Path.ofComponents (last :: (below ++ above)).reverse) = .ok d' →
        Relation.ReflTransGen (MakesBelow above (last :: below)) d d' := by
      intro d d' hd
      rcases ensureDirectory_ok hd with ⟨rfl, -⟩ | hmade
      · exact .refl
      · exact .single ⟨last :: below, List.cons_ne_nil _ _, List.suffix_rfl, hmade⟩
    rw [List.cons_append, makeDirectories]
    -- those above are asked for only if this one cannot be made without them
    split
    next made hmade => exact hlast _ _ hmade
    next =>
      split
      next made e hmade =>
        rw [hmade] at ih
        exact ih
      next made hmade =>
        rw [hmade] at ih
        split
        next made' hmade' => exact ih.trans (hlast _ _ hmade')
        next => exact ih
    next => exact .refl

theorem Extends.of_makeDirectories (disk : Disk) (parts : List Text) : Extends disk (disk.makeDirectories parts).1 := by
  have hreach : Relation.ReflTransGen (MakesBelow [] parts) disk (disk.makeDirectories (parts ++ [])).1 :=
    makeDirectories_reach (.inl rfl)
  rw [List.append_nil] at hreach
  generalize (disk.makeDirectories parts).1 = made at hreach
  induction hreach with
  | refl => exact .refl _
  | tail _ hstep ih =>
    obtain ⟨_, _, _, hmade⟩ := hstep
    exact ih.trans (.of_makeDirectory hmade)

theorem Extends.of_made {outcome : Except DiskError Unit} (h : disk.makeDirectories parts = (disk', outcome)) :
    Extends disk disk' := by
  have hextends := Extends.of_makeDirectories disk parts
  rwa [h] at hextends

/-! ### Drafts -/

theorem spareName_not_mem (taken : List Text) : spareName taken ∉ taken := by
  have hle : ∀ name ∈ taken, name.length ≤ (taken.map List.length).foldr max 0 := by
    intro name hm
    induction taken with
    | nil => cases hm
    | cons first taken ih =>
      rw [List.map_cons, List.foldr_cons]
      rcases List.mem_cons.1 hm with rfl | hm
      · exact le_max_left _ _
      · exact (ih hm).trans (le_max_right _ _)
  intro hm
  have hlength := hle _ hm
  rw [spareName, List.length_append, List.length_replicate] at hlength
  have hpos : 0 < ".tmp".toList.length := by decide
  omega

/-- A file with the text was made in the directory at the location, under a name that was free. -/
structure Drafts (disk : Disk) (location : Location) (text : Text) (draft : Location) (disk' : Disk) : Prop where
  eq : ∃ name, draft = location ++ [name]
  directory : disk.root.occupant? location = some .directory
  fresh : disk.root.occupant? draft = none
  puts : Puts disk draft (.file (.text text)) disk'

theorem makeDraft_ok {spare : List Text → Text} {directory : Text} {draft : Location}
    (hspare : ∀ taken, spare taken ∉ taken) (h : disk.makeDraft spare directory text = .ok (disk', draft)) :
    ∃ location, disk.locate directory = .ok location ∧ Drafts disk location text draft disk' := by
  unfold makeDraft at h
  split at h
  next => cases h
  next location hlocation =>
    split at h
    next entries hentries =>
      cases h
      have hdirectory := Tree.occupant?_eq_directory.2 ⟨entries, hentries⟩
      have hlookup : entries.lookup (spare (entries.map Prod.fst)) = none := by
        rw [List.lookup_eq_none_iff]
        intro entry hm
        rw [bne_iff_ne]
        intro heq
        have hmem : entry.1 ∈ entries.map Prod.fst := List.mem_map_of_mem hm
        exact hspare _ (heq ▸ hmem)
      have hfresh : disk.root.occupant? (location ++ [spare (entries.map Prod.fst)]) = none := by
        rw [← Option.not_isSome_iff_eq_none, ← Tree.isSome_lookup hentries, hlookup]
        simp
      exact ⟨location, hlocation, ⟨_, rfl⟩, hdirectory, hfresh, .of_put hdirectory (by rw [hfresh]; simp) rfl⟩
    next => cases h
    next => cases h

namespace Drafts
variable {draft : Location}

theorem ne_nil (h : Drafts disk location text draft disk') : draft ≠ [] := by
  obtain ⟨name, rfl⟩ := h.eq
  simp

theorem not_directory (h : Drafts disk location text draft disk') :
    disk'.root.occupant? draft ≠ some .directory := by
  rw [h.puts.occupant?_self]
  simp [Tree.occupant]

theorem directory_of (h : Drafts disk location text draft disk') (ho : disk'.root.occupant? other = some .directory) :
    disk.root.occupant? other = some .directory := by
  rwa [h.puts.occupant?_of_ne fun heq => h.not_directory (heq ▸ ho)] at ho

/-- Without the draft all is as it was. -/
theorem occupant?_remove (h : Drafts disk location text draft disk') (other : Location) :
    (disk'.root.remove draft).occupant? other = disk.root.occupant? other := by
  rw [Tree.occupant?_remove h.ne_nil h.not_directory]
  split
  next heq => rw [heq, h.fresh]
  next hne => exact h.puts.occupant?_of_ne hne

theorem get?_remove (h : Drafts disk location text draft disk') (hbelow : ¬ location <+: other)
    (hover : ¬ other <+: location) : (disk'.root.remove draft).get? other = disk.root.get? other := by
  have hputs := h.puts
  obtain ⟨name, rfl⟩ := h.eq
  obtain ⟨hbelow', hover'⟩ := not_prefix_concat hbelow hover name
  rw [Tree.get?_remove_apart hbelow' hover']
  exact hputs.get? other (by rwa [List.dropLast_concat]) (by rwa [List.dropLast_concat])

end Drafts

/-! ### Moving the draft -/

theorem walk_of_directories (hkeep : ∀ other, disk.root.occupant? other = some .directory →
    disk'.root.occupant? other = some .directory) (h : disk.walk location parts = .ok place)
    (hplace : disk.root.occupant? place = some .directory) : disk'.walk location parts = .ok place := by
  induction parts generalizing location with
  | nil => exact h
  | cons part parts ih =>
    obtain ⟨next, hstep, hrest⟩ := walk_cons_iff.1 h
    refine walk_cons_iff.2 ⟨next, ?_, ih hrest⟩
    have hnext : disk.root.occupant? next = some .directory := by
      by_cases hnil : parts = []
      · subst hnil
        cases hrest
        exact hplace
      · exact directory_of_walk hrest hnil
    obtain ⟨hd, hcases⟩ := step_eq_ok_iff.1 hstep
    refine step_eq_ok_iff.2 ⟨hkeep _ hd, ?_⟩
    rcases hcases with hidle | hdots | ⟨hidle, hdots, -, heq⟩
    · exact .inl hidle
    · exact .inr (.inl hdots)
    · exact .inr (.inr ⟨hidle, hdots, by rw [hkeep _ hnext]; simp, heq⟩)

/-- The slot of a path depends on the directories alone. -/
theorem slot_of_directories (hkeep : ∀ other, disk.root.occupant? other = some .directory →
    disk'.root.occupant? other = some .directory) (hwork : disk'.workingDirectory = disk.workingDirectory)
    {slot : Slot} (h : disk.slot path = .ok slot) : disk'.slot path = .ok slot := by
  have hstart : disk'.start path = disk.start path := by rw [start, start, hwork]
  unfold Disk.slot at h ⊢
  split at h
  next => cases h
  next hpath =>
    rw [if_neg hpath, hstart]
    simp only at h ⊢
    split at h
    next => cases h
    next location hwalk =>
      split at h
      next entries hentries =>
        have hdirectory := Tree.occupant?_eq_directory.2 ⟨entries, hentries⟩
        obtain ⟨entries', hentries'⟩ := Tree.occupant?_eq_directory.1 (hkeep _ hdirectory)
        have hwalk' := walk_of_directories hkeep hwalk hdirectory
        rw [walk] at hwalk'
        rw [hwalk']
        simp only [hentries']
        exact h
      next => cases h
      next => cases h

/-- The parent of a path leads to the directory of its slot. -/
theorem locate_parent {slot : Slot} (h : disk.slot path = .ok slot) (hname : slot.isNameless = false) {parent : Text}
    (hparent : Path.parent? path = some parent) : disk.locate (Path.orDot parent) = .ok slot.directory := by
  obtain ⟨-, hisName, hdirectory, front, back, hsplit, hback, -, hwalk⟩ := slot_cases h hname
  obtain ⟨c, hc, -, -, hne, habsolute, hfilter⟩ := Path.parent?_of_split hsplit hisName hback
  rw [hparent] at hc
  cases hc
  have hstart : disk.start (Path.orDot (Path.ofComponents c)) = disk.start path := by rw [start, start, habsolute]
  rw [locate_eq hne, hstart]
  refine walk_of_filter ?_ hdirectory
  rw [hfilter]
  exact walk_filter hwalk

theorem moveFile_ok {source : Location} {content : Content}
    (hsource : disk.root.occupant? source = some (.file content)) (h : disk.moveFile source path = .ok disk') :
    ∃ slot, disk.slot path = .ok slot ∧ slot.isNameless = false ∧ slot.slash = false ∧
      disk.root.occupant? slot.location ≠ some .directory ∧
      disk' = { disk with root := (disk.root.remove source).put slot.location (.file content) } := by
  unfold moveFile at h
  rw [Tree.occupant?_eq_file.1 hsource] at h
  simp only at h
  split at h
  next => cases h
  next slot hslot =>
    split at h
    next => cases h
    next hname =>
      split at h
      next => cases h
      next hslash =>
        split at h
        next => cases h
        next hfree =>
          cases h
          refine ⟨slot, hslot, by simpa using hname, by simpa using hslash, fun hdirectory => ?_, rfl⟩
          obtain ⟨entries, hentries⟩ := Tree.occupant?_eq_directory.1 hdirectory
          exact hfree entries hentries

/-- A draft that is moved to a place in its own directory is a file that came to that place. -/
theorem Drafts.moveFile {draft : Location} {parent : Text} (hd : Drafts disk location text draft disk')
    (hparent : Path.parent? path = some parent) (hlocation : disk.locate (Path.orDot parent) = .ok location)
    (h : disk'.moveFile draft path = .ok disk'') :
    ∃ slot, disk.slot path = .ok slot ∧ slot.isNameless = false ∧ slot.slash = false ∧
      Puts disk slot.location (.file (.text text)) disk'' := by
  obtain ⟨slot, hslot, hname, hslash, hfree, hdisk⟩ := moveFile_ok hd.puts.occupant?_self h
  have hslot' : disk.slot path = .ok slot :=
    slot_of_directories (fun _ => hd.directory_of) hd.puts.workingDirectory.symm hslot
  refine ⟨slot, hslot', hname, hslash, ?_⟩
  have hsame := locate_parent hslot' hname hparent
  rw [hlocation] at hsame
  cases hsame
  have hfree' : disk.root.occupant? slot.location ≠ some .directory := fun hdirectory =>
    hfree (hd.puts.directory hdirectory)
  -- the draft is removed first, which leaves the disk as it was, and then comes to its place
  have hputs : Puts { disk' with root := disk'.root.remove draft } slot.location (.file (.text text)) disk'' := by
    rw [hdisk]
    exact .of_put (by rw [hd.occupant?_remove]; exact hd.directory) (by rw [hd.occupant?_remove]; exact hfree') rfl
  refine ⟨hputs.workingDirectory.trans hd.puts.workingDirectory, hfree', fun other => ?_, fun other hbelow hover => ?_⟩
  · rw [hputs.occupant?, hd.occupant?_remove]
  · rw [hputs.get? other hbelow hover]
    rw [Slot.location, List.dropLast_concat] at hbelow hover
    exact hd.get?_remove hbelow hover

/-! ### Files -/

/-- What a write does: it fails and adds directories at most, or a file with the text comes to the slot of the path
after the directories were made. -/
theorem writeWith_cases {spare : List Text → Text} (hspare : ∀ taken, spare taken ∉ taken) (disk : Disk)
    (path text : Text) :
    (∃ e, (disk.writeWith spare path text).2 = .error e ∧ Extends disk (disk.writeWith spare path text).1) ∨
      ∃ parent made slot, Path.parent? path = some parent ∧ (disk.writeWith spare path text).2 = .ok () ∧
        disk.makeDirectories (Path.components parent).reverse = (made, .ok ()) ∧ made.slot path = .ok slot ∧
        slot.isNameless = false ∧ slot.slash = false ∧
        Puts made slot.location (.file (.text text)) (disk.writeWith spare path text).1 := by
  unfold writeWith
  split
  next => exact .inl ⟨_, rfl, .refl disk⟩
  next parent hparent =>
    split
    next made e hmade => exact .inl ⟨_, rfl, .of_made hmade⟩
    next made hmade =>
      split
      next => exact .inl ⟨_, rfl, .of_made hmade⟩
      next drafted draft hdraft =>
        obtain ⟨location, hlocation, hdrafts⟩ := makeDraft_ok hspare hdraft
        split
        next moved hmoved =>
          obtain ⟨slot, hslot, hname, hslash, hputs⟩ := hdrafts.moveFile hparent hlocation hmoved
          exact .inr ⟨parent, made, slot, hparent, rfl, hmade, hslot, hname, hslash, hputs⟩
        next =>
          have hsame : Extends made { drafted with root := drafted.root.remove draft } :=
            ⟨hdrafts.puts.workingDirectory, fun other => .inl (hdrafts.occupant?_remove other)⟩
          exact .inl ⟨_, rfl, (Extends.of_made hmade).trans hsame⟩

theorem writeWhole_cases (disk : Disk) (path text : Text) :
    (∃ e, (disk.writeWhole path text).2 = .error e) ∨
      ∃ parent place, Path.parent? path = some parent ∧
        Puts (disk.makeDirectories (Path.components parent).reverse).1 place (.file (.text text))
          (disk.writeWhole path text).1 ∧
        (disk.writeWhole path text).1.locate path = .ok place := by
  rcases writeWith_cases spareName_not_mem disk path text with
    ⟨e, herror, -⟩ | ⟨parent, made, slot, hparent, -, hmade, hslot, hname, hslash, hputs⟩
  · exact .inl ⟨e, herror⟩
  · refine .inr ⟨parent, slot.location, hparent, ?_, locate_slot hslot hname hputs (.inr hslash)⟩
    rw [hmade]
    exact hputs

/-- After a text was written, its path leads to it, and every other place is as before or is a new directory. -/
theorem writeWhole_ok (h : disk.writeWhole path text = (disk', .ok ())) :
    Grows disk disk' ∧ ∃ place, disk'.locate path = .ok place ∧
      disk'.root.occupant? place = some (.file (.text text)) ∧ ∀ other, other ≠ place →
        disk'.root.occupant? other = disk.root.occupant? other ∨
          disk.root.occupant? other = none ∧ disk'.root.occupant? other = some .directory := by
  rcases writeWhole_cases disk path text with ⟨e, herror⟩ | ⟨parent, place, -, hputs, hplace⟩
  · rw [h] at herror
    cases herror
  · rw [h] at hputs hplace
    have hextends := Extends.of_makeDirectories disk (Path.components parent).reverse
    refine ⟨hextends.grows.trans hputs.grows, place, hplace, hputs.occupant?_self, fun other hother => ?_⟩
    rw [hputs.occupant?_of_ne hother]
    exact hextends.occupant? other

theorem textAt?_writeWhole (h : disk.writeWhole path text = (disk', .ok ())) (hplace : disk'.locate path = .ok place)
    (other : Location) : disk'.textAt? other = if other = place then some text else disk.textAt? other := by
  obtain ⟨-, place', hplace', htext, helse⟩ := writeWhole_ok h
  rw [hplace] at hplace'
  cases hplace'
  split
  next heq =>
    subst heq
    exact textAt?_eq_some_iff.2 htext
  next hother =>
    rcases helse other hother with heq | ⟨hnone, hdirectory⟩
    · rw [textAt?, heq, textAt?]
    · rw [textAt?, hdirectory, textAt?, hnone]

end Disk

end Files

end Excerpt
