import Excerpt.Proofs.OutsidePaths

/-!
# When a text is written

A text can be written to a path that ends with a name if the parts before it come to no file, since the directories that
are missing there are made, and if the name is not that of a directory, not even of one that was made on the way
(`Writable`). Then it is written (`ok_of_writable`), and otherwise no file changes.
-/

namespace Excerpt

namespace Files

namespace Disk
variable {disk disk' : Disk} {location place goal other : Location} {part name path text : Text}
  {parts front c : List Text}

/-! ### What parts lead through -/

/-- Parts lead through a place, their start included. -/
def Passes (start : Location) (parts : List Text) (place : Location) : Prop :=
  ∃ above, above <+: parts ∧ follow start above = place

theorem turn_name (h : Path.isName name) : turn place name = place ++ [name] := by
  obtain ⟨hidle, hdots, -⟩ := Path.isName_iff.1 h
  rw [turn, if_neg hidle, if_neg hdots]

theorem follow_append (place : Location) (parts rest : List Text) :
    follow place (parts ++ rest) = follow (follow place parts) rest := List.foldl_append

theorem follow_filter (place : Location) (parts : List Text) :
    follow place (parts.filter fun part => !Path.isIdle part) = follow place parts := by
  induction parts generalizing place with
  | nil => rfl
  | cons part parts ih =>
    by_cases hidle : Path.isIdle part
    · rw [List.filter_cons_of_neg (by simpa using hidle), ih]
      show _ = follow (turn place part) parts
      rw [turn_idle hidle]
    · rw [List.filter_cons_of_pos (by simpa using hidle)]
      exact ih (turn place part)

theorem passes_filter_iff :
    Passes location (parts.filter fun part => !Path.isIdle part) place ↔ Passes location parts place := by
  constructor
  · rintro ⟨above, habove, rfl⟩
    obtain ⟨above, hparts, rfl⟩ := List.prefix_filter_iff.1 habove
    exact ⟨above, hparts, (follow_filter _ _).symm⟩
  · rintro ⟨above, habove, rfl⟩
    exact ⟨_, habove.filter _, follow_filter _ _⟩

theorem Passes.congr {parts' : List Text}
    (h : (parts.filter fun part => !Path.isIdle part) = parts'.filter fun part => !Path.isIdle part) :
    Passes location parts place ↔ Passes location parts' place := by
  rw [← passes_filter_iff, h, passes_filter_iff]

theorem follow_congr {parts' : List Text}
    (h : (parts.filter fun part => !Path.isIdle part) = parts'.filter fun part => !Path.isIdle part) :
    follow location parts = follow location parts' := by
  rw [← follow_filter, h, follow_filter]

theorem Passes.start (location : Location) (parts : List Text) : Passes location parts location :=
  ⟨[], List.nil_prefix, rfl⟩

theorem Passes.concat (location : Location) (parts : List Text) (part : Text) :
    Passes location (parts ++ [part]) (turn (follow location parts) part) :=
  ⟨parts ++ [part], List.prefix_rfl, follow_append _ _ _⟩

theorem Passes.cons (h : Passes (turn location part) parts place) : Passes location (part :: parts) place := by
  obtain ⟨above, habove, heq⟩ := h
  exact ⟨part :: above, List.cons_prefix_cons.2 ⟨rfl, habove⟩, heq⟩

theorem Passes.mono {parts' : List Text} (h : Passes location parts place) (hparts : parts <+: parts') :
    Passes location parts' place := by
  obtain ⟨above, habove, heq⟩ := h
  exact ⟨above, habove.trans hparts, heq⟩

/-! ### Following what is there -/

/-- A walk that ends at a directory passes through directories. -/
theorem directory_of_passes (h : disk.walk location parts = .ok goal)
    (hgoal : disk.root.occupant? goal = some .directory) (hpasses : Passes location parts place) :
    disk.root.occupant? place = some .directory := by
  obtain ⟨above, ⟨rest, rfl⟩, rfl⟩ := hpasses
  obtain ⟨next, habove, hrest⟩ := walk_append_iff.1 h
  rw [← eq_follow_of_walk habove]
  by_cases hnil : rest = []
  · subst hnil
    cases hrest
    exact hgoal
  · exact directory_of_walk hrest hnil

/-- Where no file is in the way, a walk comes to a directory unless something is missing. -/
theorem walk_of_no_file (h : disk.root.occupant? location = some .directory)
    (hclear : ∀ place, Passes location parts place → ∀ content, disk.root.occupant? place ≠ some (.file content)) :
    disk.walk location parts = .ok (follow location parts) ∧
        disk.root.occupant? (follow location parts) = some .directory ∨
      disk.walk location parts = .error .notFound := by
  induction parts generalizing location with
  | nil => exact .inl ⟨rfl, h⟩
  | cons part parts ih =>
    rw [walk, List.foldlM_cons, step_eq_turn h part]
    cases hnext : disk.root.occupant? (turn location part) with
    | none => exact .inr rfl
    | some occupant =>
      cases occupant with
      | file content => exact absurd hnext (hclear _ (Passes.cons (.start _ _)) content)
      | directory => exact ih hnext fun place hp => hclear place hp.cons

/-! ### Directories on the way -/

theorem ne_nil_of_split (hsplit : path.split '/' = front ++ [name]) (hname : name ≠ []) : path ≠ [] := by
  rintro rfl
  have hmem : name ∈ Text.split '/' [] := hsplit ▸ List.mem_append_right _ List.mem_cons_self
  exact hname (List.mem_singleton.1 hmem)

theorem slot_of_split (hsplit : path.split '/' = front ++ [name]) (hname : name ≠ [])
    (hwalk : disk.walk (disk.start path) front = .ok place) (hplace : disk.root.occupant? place = some .directory) :
    disk.slot path = .ok ⟨place, name, false⟩ := by
  obtain ⟨entries, hentries⟩ := Tree.occupant?_eq_directory.1 hplace
  have hpath := ne_nil_of_split hsplit hname
  rw [walk] at hwalk
  rw [slot, if_neg (by simpa using hpath), hsplit]
  simp [hname, hwalk, hentries]

theorem slot_eq_error {e : DiskError} (hsplit : path.split '/' = front ++ [name]) (hname : name ≠ [])
    (hwalk : disk.walk (disk.start path) front = .error e) : disk.slot path = .error e := by
  have hpath := ne_nil_of_split hsplit hname
  rw [walk] at hwalk
  rw [slot, if_neg (by simpa using hpath), hsplit]
  simp [hname, hwalk]

theorem isDirectory_of_ensureDirectory (h : disk.ensureDirectory path = .ok disk') : disk'.isDirectory path := by
  rcases ensureDirectory_ok h with ⟨rfl, hdirectory⟩ | hmade
  · exact hdirectory
  · obtain ⟨place, hputs, -, hplace⟩ := makeDirectory_ok hmade
    exact isDirectory_iff.2 ⟨place, hplace, hputs.occupant?_self⟩

theorem ne_nil_of_part (h : part = Path.dot ∨ Path.IsPart part) : part ≠ [] := by
  rintro rfl
  rcases h with h | h
  · cases h
  · exact h.not_isIdle rfl

/-- In a directory, another one is there or can be made unless a file has its name. -/
theorem ensureDirectory_of_walk (hsplit : path.split '/' = front ++ [name]) (hname : name = Path.dot ∨ Path.IsPart name)
    (hwalk : disk.walk (disk.start path) front = .ok place) (hplace : disk.root.occupant? place = some .directory)
    (hfile : ∀ content, disk.root.occupant? (turn place name) ≠ some (.file content)) :
    ∃ disk', disk.ensureDirectory path = .ok disk' := by
  have hne := ne_nil_of_part hname
  cases hturn : disk.root.occupant? (turn place name) with
  | none =>
    have hisName : Path.isName name := by
      have hnot : ¬ (Path.isIdle name ∨ name = Path.dotDot) := fun hpart => by
        rw [directory_turn hplace hpart] at hturn
        cases hturn
      refine Path.isName_iff.2 ⟨fun hidle => hnot (.inl hidle), fun hdots => hnot (.inr hdots), ?_⟩
      rcases hname with rfl | hname
      · decide
      · exact hname.not_mem
    have hfree : disk.root.get? (place ++ [name]) = none := by
      rw [turn_name hisName] at hturn
      exact Tree.occupant?_eq_none.1 hturn
    have hmade : disk.makeDirectory path = .ok { disk with root := disk.root.put (place ++ [name]) .empty } := by
      have hnameless : (⟨place, name, false⟩ : Slot).isNameless = false := by
        obtain ⟨hidle, hdots, -⟩ := Path.isName_iff.1 hisName
        simp [Slot.isNameless, hidle, hdots]
      rw [makeDirectory, slot_of_split hsplit hne hwalk hplace]
      simp only [hnameless, Slot.location, hfree]
      rfl
    exact ⟨_, by rw [ensureDirectory, hmade]⟩
  | some occupant =>
    cases occupant with
    | file content => exact absurd hturn (hfile content)
    | directory =>
      refine ⟨disk, ensureDirectory_of_isDirectory (isDirectory_iff.2 ⟨turn place name, ?_, hturn⟩)⟩
      rw [locate_eq (ne_nil_of_split hsplit hne), hsplit]
      refine walk_append_iff.2 ⟨place, hwalk, ?_⟩
      rw [walk_singleton, step_eq_turn hplace, hturn]
      rfl

theorem ensureDirectory_eq_notFound (hsplit : path.split '/' = front ++ [name]) (hname : name ≠ [])
    (hwalk : disk.walk (disk.start path) front = .error .notFound) : disk.ensureDirectory path = .error .notFound := by
  have hnot : ¬ disk.isDirectory path := by
    intro h
    obtain ⟨place, hplace, -⟩ := isDirectory_iff.1 h
    rw [locate_eq (ne_nil_of_split hsplit hname), hsplit] at hplace
    obtain ⟨next, hnext, -⟩ := walk_append_iff.1 hplace
    rw [hwalk] at hnext
    cases hnext
  have hmade : disk.makeDirectory path = .error .notFound := by
    rw [makeDirectory, slot_eq_error hsplit hname hwalk]
  rw [ensureDirectory, hmade]
  simp [hnot]

theorem start_ofComponents {names : List Text} (hc : Path.Canonical (c ++ names)) (hne : c ≠ []) :
    disk.start (Path.ofComponents c) = disk.start (Path.ofComponents (c ++ names)) := by
  rw [start, start, Path.isAbsolute_ofComponents_of_append hc hne]

theorem walk_partsOf_of_isDirectory (hc : Path.Canonical c) (h : disk.isDirectory (Path.ofComponents c)) :
    disk.walk (disk.start (Path.ofComponents c)) (Path.partsOf c) =
        .ok (follow (disk.start (Path.ofComponents c)) (Path.partsOf c)) ∧
      disk.root.occupant? (follow (disk.start (Path.ofComponents c)) (Path.partsOf c)) = some .directory := by
  obtain ⟨place, hplace, hdirectory⟩ := isDirectory_iff.1 h
  have hleads : LeadsTo disk (Path.ofComponents c) place := ⟨hplace, hdirectory⟩
  have hwalk := hleads.walk_partsOf
  rw [Path.components_ofComponents hc] at hwalk
  rw [← eq_follow_of_walk hwalk]
  exact ⟨hwalk, hdirectory⟩

theorem makeDirectories_concat_of_ok {made : Disk} {last : Text}
    (h : disk.ensureDirectory (Path.ofComponents (c ++ [last])) = .ok made) :
    disk.makeDirectories (c ++ [last]).reverse = (made, .ok ()) := by
  rw [List.reverse_concat, makeDirectories, List.reverse_cons, List.reverse_reverse]
  simp only [h]

theorem makeDirectories_concat_of_notFound {made made' : Disk} {last : Text}
    (h : disk.ensureDirectory (Path.ofComponents (c ++ [last])) = .error .notFound)
    (habove : disk.makeDirectories c.reverse = (made, .ok ()))
    (hmade : made.ensureDirectory (Path.ofComponents (c ++ [last])) = .ok made') :
    disk.makeDirectories (c ++ [last]).reverse = (made', .ok ()) := by
  rw [List.reverse_concat, makeDirectories, List.reverse_cons, List.reverse_reverse]
  simp only [h, habove, hmade]

theorem ensureDirectory_root (h : disk.root.occupant? [] = some .directory) :
    disk.ensureDirectory (Path.ofComponents [Path.rootName]) = .ok disk := by
  refine ensureDirectory_of_isDirectory (isDirectory_iff.2 ⟨[], ?_, h⟩)
  rw [locate_eq (by decide)]
  exact walk_of_forall_isIdle h (by decide)

/-- Directories can be made where no file is in the way. -/
theorem makeDirectories_of_no_file (hc : Path.Canonical c)
    (hstart : disk.root.occupant? (disk.start (Path.ofComponents c)) = some .directory)
    (hclear : ∀ place, Passes (disk.start (Path.ofComponents c)) (Path.partsOf c) place →
      ∀ content, disk.root.occupant? place ≠ some (.file content)) :
    ∃ made, disk.makeDirectories c.reverse = (made, .ok ()) ∧ made.isDirectory (Path.ofComponents c) := by
  induction c using List.reverseRecOn with
  | nil => exact absurd rfl hc.ne_nil
  | append_singleton c last ih =>
    by_cases hroot : c ++ [last] = [Path.rootName]
    · have hmade := ensureDirectory_root (by rw [hroot] at hstart; exact hstart)
      rw [← hroot] at hmade
      exact ⟨disk, makeDirectories_concat_of_ok hmade, isDirectory_of_ensureDirectory hmade⟩
    have hparts := Path.partsOf_concat hroot
    have hsplit : (Path.ofComponents (c ++ [last])).split '/' = Path.partsOf c ++ [last] := by
      rw [Path.split_ofComponents hc, if_neg hroot, List.append_nil, hparts]
    have hlast : last = Path.dot ∨ Path.IsPart last := by
      cases c with
      | nil => exact (hc.head last rfl).resolve_left fun heq => hroot (by rw [heq]; rfl)
      | cons first rest => exact .inr (hc.tail last (List.mem_append_right _ List.mem_cons_self))
    rw [hparts] at hclear
    rcases walk_of_no_file hstart fun place hp => hclear place (hp.mono (List.prefix_append _ _)) with
      ⟨hwalk, hplace⟩ | hwalk
    · obtain ⟨made, hmade⟩ := ensureDirectory_of_walk hsplit hlast hwalk hplace (hclear _ (.concat _ _ _))
      exact ⟨made, makeDirectories_concat_of_ok hmade, isDirectory_of_ensureDirectory hmade⟩
    · -- something is missing above, so those are made first
      have hne : c ≠ [] := by
        rintro rfl
        cases hwalk
      have hsame : disk.start (Path.ofComponents c) = _ := start_ofComponents hc hne
      obtain ⟨made, hmade, hdirectory⟩ := ih (hc.of_append hne) (by rwa [hsame])
        (by rw [hsame]; exact fun place hp => hclear place (hp.mono (List.prefix_append _ _)))
      have hextends := Extends.of_made hmade
      have hstart' := hextends.grows.start (Path.ofComponents (c ++ [last]))
      obtain ⟨hwalk', hplace'⟩ := walk_partsOf_of_isDirectory (hc.of_append hne) hdirectory
      rw [start_ofComponents hc hne, hstart'] at hwalk' hplace'
      obtain ⟨made', hmade'⟩ := ensureDirectory_of_walk hsplit hlast (by rwa [hstart']) hplace'
        fun content hfile => hclear _ (.concat _ _ _) content (hextends.file hfile)
      have hmissing := ensureDirectory_eq_notFound hsplit (ne_nil_of_part hlast) hwalk
      exact ⟨made', makeDirectories_concat_of_notFound hmissing hmade hmade', isDirectory_of_ensureDirectory hmade'⟩

theorem directory_start_of_makeDirectory (h : disk.makeDirectory path = .ok disk') :
    disk.root.occupant? (disk.start path) = some .directory := by
  unfold makeDirectory at h
  split at h
  next => cases h
  next slot hslot =>
    split at h
    next => cases h
    next hname =>
      rw [Bool.or_eq_true, not_or, Bool.not_eq_true] at hname
      obtain ⟨-, -, hdirectory, front, -, -, -, -, hwalk⟩ := slot_cases hslot hname.1
      exact directory_of_passes hwalk hdirectory (.start _ _)

/-- One directory that is made on the way is where the components lead. -/
theorem makesBelow_passes (hc : Path.Canonical c) (h : MakesBelow [] c.reverse disk disk') :
    disk.root.occupant? (disk.start (Path.ofComponents c)) = some .directory ∧
      ∃ place, Passes (disk.start (Path.ofComponents c)) (Path.partsOf c) place ∧ Puts disk place .empty disk' := by
  obtain ⟨part, hne, hsuffix, hmade⟩ := h
  rw [← List.reverse_reverse part, List.reverse_suffix] at hsuffix
  rw [List.append_nil] at hmade
  have hne' : part.reverse ≠ [] := by simpa using hne
  generalize part.reverse = before at hsuffix hmade hne'
  obtain ⟨after, rfl⟩ := hsuffix
  have hbefore := hc.of_append hne'
  have hsame : disk.start (Path.ofComponents before) = _ := start_ofComponents hc hne'
  refine ⟨hsame ▸ directory_start_of_makeDirectory hmade, ?_⟩
  obtain ⟨place, hputs, -, hplace⟩ := makeDirectory_ok hmade
  refine ⟨place, ⟨Path.partsOf before, ?_, ?_⟩, hputs⟩
  · rw [Path.partsOf_append hne']
    exact List.prefix_append _ _
  · have hnil := Path.ofComponents_ne_nil hbefore
    have hfilter := Path.filter_partsOf_components hnil
    rw [Path.components_ofComponents hbefore] at hfilter
    rw [locate_eq hnil, hputs.grows.start, hsame] at hplace
    rw [follow_congr hfilter, ← eq_follow_of_walk hplace]

/-- Directories are made where the components lead, and none if those do not start at a directory. -/
theorem makeDirectories_passes (hc : Path.Canonical c) (disk : Disk) :
    (disk.root.occupant? (disk.start (Path.ofComponents c)) = some .directory ∨
        (disk.makeDirectories c.reverse).1 = disk) ∧
      ∀ other, (disk.makeDirectories c.reverse).1.root.occupant? other = disk.root.occupant? other ∨
        Passes (disk.start (Path.ofComponents c)) (Path.partsOf c) other := by
  have hreach : Relation.ReflTransGen (MakesBelow [] c.reverse) disk (disk.makeDirectories (c.reverse ++ [])).1 :=
    makeDirectories_reach (.inl rfl)
  rw [List.append_nil] at hreach
  generalize (disk.makeDirectories c.reverse).1 = made at hreach
  constructor
  · rcases hreach.cases_head with heq | ⟨next, hstep, -⟩
    · exact .inr heq.symm
    · exact .inl (makesBelow_passes hc hstep).1
  · suffices h : made.workingDirectory = disk.workingDirectory ∧ ∀ other,
        made.root.occupant? other = disk.root.occupant? other ∨
          Passes (disk.start (Path.ofComponents c)) (Path.partsOf c) other from h.2
    induction hreach with
    | refl => exact ⟨rfl, fun _ => .inl rfl⟩
    | tail _ hstep ih =>
      obtain ⟨hwork, hbefore⟩ := ih
      obtain ⟨-, place, hpasses, hputs⟩ := makesBelow_passes hc hstep
      rw [start, hwork, ← start] at hpasses
      refine ⟨hputs.workingDirectory.trans hwork, fun other => ?_⟩
      by_cases heq : other = place
      · exact .inr (heq ▸ hpasses)
      · rw [hputs.occupant?_of_ne heq]
        exact hbefore other

/-! ### The parent of a path -/

theorem start_parent (hc : Path.Canonical c)
    (h : Path.isAbsolute (Path.orDot (Path.ofComponents c)) = Path.isAbsolute path) :
    disk.start (Path.ofComponents c) = disk.start path := by
  have hsame : Path.orDot (Path.ofComponents c) = Path.ofComponents c :=
    if_neg (by simpa using Path.ofComponents_ne_nil hc)
  rw [hsame] at h
  rw [start, start, h]

/-- Directories for the parent of a path are made where the parts before its name lead. -/
theorem makeDirectories_parent (hsplit : path.split '/' = front ++ [name]) (hname : Path.isName name) {parent : Text}
    (hparent : Path.parent? path = some parent) (disk : Disk) :
    (disk.root.occupant? (disk.start path) = some .directory ∨
        (disk.makeDirectories (Path.components parent).reverse).1 = disk) ∧
      ∀ other, (disk.makeDirectories (Path.components parent).reverse).1.root.occupant? other =
        disk.root.occupant? other ∨ Passes (disk.start path) front other := by
  obtain ⟨c, hc, hcanonical, hparts, -, habsolute, -⟩ := Path.parent?_of_split hsplit hname (by simp)
  rw [hparent] at hc
  cases hc
  rcases hcanonical with rfl | hcanonical
  · exact ⟨.inr rfl, fun _ => .inl rfl⟩
  · rw [Path.components_ofComponents hcanonical, ← start_parent hcanonical habsolute]
    simp only [← Passes.congr hparts]
    exact makeDirectories_passes hcanonical disk

/-- If the parts before the name lead from a directory through no file, the parent is a directory afterwards. -/
theorem makeDirectories_parent_of_no_file (hsplit : path.split '/' = front ++ [name]) (hname : Path.isName name)
    (hstart : disk.root.occupant? (disk.start path) = some .directory)
    (hclear : ∀ place, Passes (disk.start path) front place →
      ∀ content, disk.root.occupant? place ≠ some (.file content)) :
    ∃ parent made, Path.parent? path = some parent ∧
      disk.makeDirectories (Path.components parent).reverse = (made, .ok ()) ∧
      made.walk (disk.start path) front = .ok (follow (disk.start path) front) ∧
      made.root.occupant? (follow (disk.start path) front) = some .directory := by
  obtain ⟨c, hparent, hcanonical, hparts, -, habsolute, -⟩ := Path.parent?_of_split hsplit hname (by simp)
  rcases hcanonical with rfl | hcanonical
  · have hsame : follow (disk.start path) front = disk.start path := (follow_congr hparts).symm
    rw [hsame]
    exact ⟨_, disk, hparent, rfl, walk_of_filter (by rw [← hparts]; rfl) hstart, hstart⟩
  · rw [← start_parent hcanonical habsolute] at hstart hclear ⊢
    simp only [← Passes.congr hparts] at hclear
    obtain ⟨made, hmade, hdirectory⟩ := makeDirectories_of_no_file hcanonical hstart hclear
    obtain ⟨hwalk, hplace⟩ := walk_partsOf_of_isDirectory hcanonical hdirectory
    have hextends := Extends.of_made hmade
    rw [hextends.grows.start, follow_congr hparts] at hwalk hplace
    refine ⟨_, made, hparent, ?_, walk_of_filter ?_ hplace, hplace⟩
    · rwa [Path.components_ofComponents hcanonical]
    · rw [← hparts]
      exact walk_filter hwalk

/-! ### Writing -/

/-- The path ends with a name whose place is no directory. The parts before it lead from a directory through no file,
and not through that place. -/
structure Writable (disk : Disk) (path : Text) (place : Location) : Prop where
  start : disk.root.occupant? (disk.start path) = some .directory
  ends : ∃ front name, path.split '/' = front ++ [name] ∧ Path.isName name ∧
    place = follow (disk.start path) front ++ [name] ∧ ∀ other, Passes (disk.start path) front other →
      other ≠ place ∧ ∀ content, disk.root.occupant? other ≠ some (.file content)
  free : disk.root.occupant? place ≠ some .directory

theorem Writable.unique (h : Writable disk path place) (h' : Writable disk path other) : place = other := by
  obtain ⟨front, name, hsplit, -, rfl, -⟩ := h.ends
  obtain ⟨front', name', hsplit', -, rfl, -⟩ := h'.ends
  obtain ⟨rfl, hname⟩ := List.append_inj' (hsplit.symm.trans hsplit') rfl
  rw [hname]

/-- A text is written only where one can be. -/
theorem writable_of_ok {spare : List Text → Text} (hspare : ∀ taken, spare taken ∉ taken)
    (h : (disk.writeWith spare path text).2 = .ok ()) :
    ∃ place made, Writable disk path place ∧ Extends disk made ∧
      Puts made place (.file (.text text)) (disk.writeWith spare path text).1 ∧
      (disk.writeWith spare path text).1.locate path = .ok place := by
  rcases writeWith_cases hspare disk path text with
    ⟨e, herror, -⟩ | ⟨parent, made, slot, hparent, -, hmade, hslot, hname, hslash, hputs⟩
  · rw [h] at herror
    cases herror
  obtain ⟨-, hisName, hdirectory, front, back, hsplit, -, hback, hwalk⟩ := slot_cases hslot hname
  rw [hback hslash] at hsplit
  have hextends := Extends.of_made hmade
  have hmakes := (makeDirectories_parent hsplit hisName hparent disk).1
  rw [hmade] at hmakes
  rw [hextends.grows.start] at hwalk
  have hpasses : ∀ other, Passes (disk.start path) front other → made.root.occupant? other = some .directory :=
    fun other hp => directory_of_passes hwalk hdirectory hp
  refine ⟨slot.location, made, ⟨?_, ⟨front, slot.name, hsplit, hisName, ?_, fun other hp => ⟨?_, ?_⟩⟩, ?_⟩, hextends,
    hputs, locate_slot hslot hname hputs (.inr hslash)⟩
  · rcases hmakes with hstart | rfl
    · exact hstart
    · exact hpasses _ (.start _ _)
  · rw [Slot.location, eq_follow_of_walk hwalk]
  · rintro rfl
    exact hputs.free (hpasses _ hp)
  · intro content hfile
    have hsame := hpasses other hp
    rcases hextends.occupant? other with heq | ⟨hnone, -⟩
    · rw [heq, hfile] at hsame
      cases hsame
    · rw [hnone] at hfile
      cases hfile
  · exact fun hplace => hputs.free (hextends.grows.directory _ hplace)

theorem exists_makeDraft {directory : Text} (hlocate : disk.locate directory = .ok location)
    (h : disk.root.occupant? location = some .directory) (spare : List Text → Text) (text : Text) :
    ∃ disk' draft, disk.makeDraft spare directory text = .ok (disk', draft) := by
  obtain ⟨entries, hentries⟩ := Tree.occupant?_eq_directory.1 h
  rw [makeDraft, hlocate]
  simp only [hentries]
  exact ⟨_, _, rfl⟩

theorem exists_moveFile {source : Location} {content : Content} {slot : Slot}
    (hsource : disk.root.occupant? source = some (.file content)) (hslot : disk.slot path = .ok slot)
    (hname : slot.isNameless = false) (hslash : slot.slash = false)
    (hfree : disk.root.occupant? slot.location ≠ some .directory) : ∃ disk', disk.moveFile source path = .ok disk' := by
  rw [moveFile, Tree.occupant?_eq_file.1 hsource]
  simp only [hslot, hname, hslash, Bool.false_eq_true, if_false]
  split
  next entries hentries => exact absurd (Tree.occupant?_eq_directory.2 ⟨entries, hentries⟩) hfree
  next => exact ⟨_, rfl⟩

/-- Where a text can be written it is. -/
theorem ok_of_writable {spare : List Text → Text} (hspare : ∀ taken, spare taken ∉ taken)
    (h : Writable disk path place) (text : Text) : (disk.writeWith spare path text).2 = .ok () := by
  obtain ⟨front, name, hsplit, hname, rfl, hclear⟩ := h.ends
  obtain ⟨parent, made, hparent, hmade, hwalk, hdirectory⟩ :=
    makeDirectories_parent_of_no_file hsplit hname h.start fun place hp => (hclear place hp).2
  have hextends := Extends.of_made hmade
  obtain ⟨hidle, hdots, -⟩ := Path.isName_iff.1 hname
  have hne : name ≠ [] := by
    rintro rfl
    exact hidle rfl
  have hslot : made.slot path = .ok ⟨follow (disk.start path) front, name, false⟩ :=
    slot_of_split hsplit hne (by rwa [hextends.grows.start]) hdirectory
  have hnameless : (⟨follow (disk.start path) front, name, false⟩ : Slot).isNameless = false := by
    simp [Slot.isNameless, hidle, hdots]
  obtain ⟨drafted, draft, hdraft⟩ := exists_makeDraft (locate_parent hslot hnameless hparent) hdirectory spare text
  obtain ⟨location, -, hdrafts⟩ := makeDraft_ok hspare hdraft
  have hslot' := slot_of_directories (fun _ => hdrafts.puts.directory) hdrafts.puts.workingDirectory hslot
  -- a directory at the place would have been there before, or on the way
  have hfree : drafted.root.occupant? (follow (disk.start path) front ++ [name]) ≠ some .directory := by
    intro hplace
    have hplace := hdrafts.directory_of hplace
    have hmakes := (makeDirectories_parent hsplit hname hparent disk).2 (follow (disk.start path) front ++ [name])
    rw [hmade] at hmakes
    rcases hmakes with heq | hpasses
    · exact h.free (heq ▸ hplace)
    · exact (hclear _ hpasses).1 rfl
  obtain ⟨moved, hmoved⟩ := exists_moveFile hdrafts.puts.occupant?_self hslot' hnameless rfl hfree
  simp only [writeWith, hparent, hmade, hdraft, hmoved]

/-- What the file at a place holds. -/
def contentAt? (disk : Disk) (place : Location) : Option Content :=
  match disk.root.occupant? place with
  | some (.file content) => some content
  | _ => none

theorem Extends.contentAt? (h : Extends disk disk') (place : Location) :
    disk'.contentAt? place = disk.contentAt? place := by
  unfold Disk.contentAt?
  rcases h.occupant? place with heq | ⟨hnone, hdirectory⟩
  · rw [heq]
  · rw [hnone, hdirectory]

theorem Puts.contentAt? {content : Content} (h : Puts disk place (.file content) disk') (other : Location) :
    disk'.contentAt? other = if other = place then some content else disk.contentAt? other := by
  unfold Disk.contentAt?
  by_cases heq : other = place
  · rw [if_pos heq, heq, h.occupant?_self]
    rfl
  · rw [if_neg heq, h.occupant?_of_ne heq]

/-- A text is written to a path exactly if it can be. Then the path leads to it, and every other file is as before, none
being added or removed. If it is not written, every file is as before, so no draft remains. In both cases directories
stay, whatever free name the draft was given. -/
theorem writeWith_wholeOrNothing (disk : Disk) (spare : List Text → Text) (hspare : ∀ taken, spare taken ∉ taken)
    (path text : Text) :
    ∃ disk' outcome, disk.writeWith spare path text = (disk', outcome) ∧
      (outcome = .ok () ↔ ∃ place, Writable disk path place) ∧
      (∀ place, Writable disk path place →
        disk'.readText path = .ok text ∧ disk'.locate path = .ok place ∧
          ∀ other, disk'.contentAt? other = if other = place then some (.text text) else disk.contentAt? other) ∧
      (∀ e, outcome = .error e → ∀ other, disk'.contentAt? other = disk.contentAt? other) ∧
      (Path.parent? path = none → outcome = .error (.noParent path)) ∧
      ∀ other, disk.root.occupant? other = some .directory → disk'.root.occupant? other = some .directory := by
  refine ⟨(disk.writeWith spare path text).1, (disk.writeWith spare path text).2, rfl,
    ⟨fun h => ?_, fun ⟨place, h⟩ => ok_of_writable hspare h text⟩, fun place h => ?_, fun e he => ?_,
    fun hparent => ?_, ?_⟩
  · obtain ⟨place, -, h, -⟩ := writable_of_ok hspare h
    exact ⟨place, h⟩
  · obtain ⟨place', made, h', hextends, hputs, hlocate⟩ := writable_of_ok hspare (ok_of_writable hspare h text)
    rw [h.unique h']
    refine ⟨readText_eq_ok_iff.2 ⟨place', hlocate, hputs.occupant?_self⟩, hlocate, fun other => ?_⟩
    rw [hputs.contentAt?, hextends.contentAt?]
  · rcases writeWith_cases hspare disk path text with ⟨_, -, hextends⟩ | ⟨_, _, _, -, hok, -⟩
    · exact hextends.contentAt?
    · rw [he] at hok
      cases hok
  · rw [writeWith, hparent]
  · rcases writeWith_cases hspare disk path text with ⟨_, -, hextends⟩ | ⟨_, made, _, -, -, hmade, -, -, -, hputs⟩
    · exact hextends.grows.directory
    · exact fun other h => hputs.directory ((Extends.of_made hmade).grows.directory other h)

/-- A file in a directory, next to one with a name that a draft might get, and another one beside the directory. -/
def draftedFiles : Disk :=
  ⟨.directory [("w".toList, .directory
    [("d".toList, .directory [(".tmp".toList, .file (.text [])), ("f".toList, .file (.text ['x']))]),
      ("g".toList, .file (.text ['x']))])], ["w".toList]⟩

/-- A directory that is missing on the way is made, and a file on the way is not. -/
theorem writeWith_wholeOrNothing_missing :
    (∀ taken, spareName taken ∉ taken) ∧
      (draftedFiles.writeWith spareName "d/new/../f".toList ['y']).2 = .ok () ∧
      Writable draftedFiles "d/new/../f".toList ["w".toList, "d".toList, "f".toList] ∧
      (∀ other, (draftedFiles.writeWith spareName "d/new/../f".toList ['y']).1.contentAt? other =
        if other = ["w".toList, "d".toList, "f".toList] then some (.text ['y']) else draftedFiles.contentAt? other) ∧
      (draftedFiles.writeWith spareName "d/f/new/f".toList ['y']).2 = .error (.disk "d/f/new/f".toList .notDirectory) ∧
      ∀ other, (draftedFiles.writeWith spareName "d/f/new/f".toList ['y']).1.contentAt? other =
        draftedFiles.contentAt? other := by
  obtain ⟨disk', outcome, hrun, hiff, hwritten, -⟩ :=
    writeWith_wholeOrNothing draftedFiles spareName spareName_not_mem "d/new/../f".toList ['y']
  obtain ⟨disk'', outcome', hrun', -, -, hfailed, -⟩ :=
    writeWith_wholeOrNothing draftedFiles spareName spareName_not_mem "d/f/new/f".toList ['y']
  have hok : (draftedFiles.writeWith spareName "d/new/../f".toList ['y']).2 = .ok () := by decide +kernel
  have herror : (draftedFiles.writeWith spareName "d/f/new/f".toList ['y']).2 =
      .error (.disk "d/f/new/f".toList .notDirectory) := by decide +kernel
  have hlocate : (draftedFiles.writeWith spareName "d/new/../f".toList ['y']).1.locate "d/new/../f".toList =
      .ok ["w".toList, "d".toList, "f".toList] := by decide +kernel
  rw [hrun] at hok hlocate ⊢
  rw [hrun'] at herror ⊢
  obtain ⟨place, hplace⟩ := hiff.1 hok
  obtain ⟨-, hplace', hcontents⟩ := hwritten place hplace
  rw [hlocate] at hplace'
  cases hplace'
  exact ⟨spareName_not_mem, hok, hplace, hcontents, herror, hfailed _ herror⟩

end Disk

end Files

end Excerpt
