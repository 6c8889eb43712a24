import Excerpt.Proofs.WholeWrites

/-!
# Paths outside a directory

A text that is written to a path below a directory changes nothing outside it (`AgreeOutside.writeWhole`): the
directories that are made on the way have the components of the path, and those of the directory are there. A path that
does not pass through the directory leads to the same place afterwards, and the same is read there.
-/

namespace Excerpt

namespace Path
variable {path : Text} {c names : List Text}

/-! ### Paths below a base -/

/-- The parts of a base are those that lead on, and maybe an empty one. -/
theorem split_eq_lead (h : path ≠ []) :
    lead path ≠ [] ∧ (path.split '/' = lead path ∨ path.split '/' = lead path ++ [[]]) := by
  have hne := Text.split_ne_nil '/' path
  rw [lead]
  split
  next hlast =>
    have hlast : path.getLast? = some '/' := by simpa [h] using hlast
    obtain ⟨before, rfl⟩ := List.getLast?_eq_some_iff.1 hlast
    have hsplit : Text.split '/' (before ++ ['/']) = Text.split '/' before ++ [[]] := Text.split_append_cons before []
    rw [hsplit, List.dropLast_concat]
    exact ⟨Text.split_ne_nil '/' before, .inr rfl⟩
  next => exact ⟨hne, .inl rfl⟩

theorem components_join (h : path ≠ []) (hnames : Below names) :
    components (join path (ofNames names)) = components path ++ names := by
  obtain ⟨hlead, hsplit⟩ := split_eq_lead h
  have hfilter : ((path.split '/').filter fun part => !isIdle part) = (lead path).filter fun part => !isIdle part := by
    rcases hsplit with hsplit | hsplit
    · rw [hsplit]
    · rw [hsplit, List.filter_append]
      exact List.append_nil _
  have hhead : (path.split '/').head? = (lead path).head? := by
    rcases hsplit with hsplit | hsplit
    · rw [hsplit]
    · rw [hsplit, List.head?_append_of_ne_nil _ hlead]
  rw [components, components, isAbsolute_join hnames, split_join hnames, hfilter, hhead,
    List.head?_append_of_ne_nil _ hlead, List.filter_append, filter_of_isPart hnames.isPart]
  split
  · rfl
  · split <;> rfl

theorem append_ne_rootName (h : c ≠ []) (hnames : Below names) : c ++ names ≠ [rootName] := by
  intro heq
  have hlength := congrArg List.length heq
  have hc := List.length_pos_of_ne_nil h
  have hn := List.length_pos_of_ne_nil hnames.ne_nil
  rw [List.length_append, List.length_singleton] at hlength
  omega

theorem parent?_join (h : path ≠ []) (hnames : Below names) :
    parent? (join path (ofNames names)) = some (ofComponents (components path ++ names.dropLast)) := by
  have hne := (canonical_components h).ne_nil
  rw [parent?, components_join h hnames]
  simp only [List.dropLast_append_of_ne_nil hnames.ne_nil]
  rw [if_neg]
  simpa [hne] using append_ne_rootName hne hnames

theorem split_ofComponents_append (h : path ≠ []) (hnames : Below names) :
    (ofComponents (components path ++ names)).split '/' = partsOf (components path) ++ names := by
  have hcanonical := canonical_components h
  rw [split_ofComponents (hcanonical.append hnames.isPart), if_neg (append_ne_rootName hcanonical.ne_nil hnames),
    List.append_nil, partsOf_append hcanonical.ne_nil]

theorem isAbsolute_ofComponents_append (h : path ≠ []) (hnames : ∀ name ∈ names, IsPart name) :
    isAbsolute (ofComponents (components path ++ names)) = isAbsolute path := by
  have hcanonical := canonical_components h
  rw [isAbsolute_ofComponents (hcanonical.append hnames), List.head?_append_of_ne_nil _ hcanonical.ne_nil,
    head?_components h]

end Path

namespace Files

namespace Disk
variable {disk disk' disk'' : Disk} {location place base : Location} {path out text part : Text}
  {parts names : List Text}

/-! ### Following components -/

/-- The base is a directory to which the path leads. -/
structure LeadsTo (disk : Disk) (path : Text) (base : Location) : Prop where
  locate : disk.locate path = .ok base
  directory : disk.root.occupant? base = some .directory

namespace LeadsTo

theorem ne_nil (h : LeadsTo disk path base) : path ≠ [] := ne_nil_of_locate h.locate

theorem grows (h : LeadsTo disk path base) (hgrows : Grows disk disk') : LeadsTo disk' path base :=
  ⟨hgrows.locate h.locate, hgrows.directory base h.directory⟩

theorem walk_lead (h : LeadsTo disk path base) : disk.walk (disk.start path) (Path.lead path) = .ok base := by
  have hlocate := h.locate
  rw [locate_eq h.ne_nil] at hlocate
  rcases (Path.split_eq_lead h.ne_nil).2 with hsplit | hsplit
  · rwa [hsplit] at hlocate
  · rw [hsplit] at hlocate
    obtain ⟨next, hnext, hlast⟩ := walk_append_iff.1 hlocate
    have hlast := walk_filter hlast
    cases hlast
    exact hnext

theorem walk_partsOf (h : LeadsTo disk path base) :
    disk.walk (disk.start path) (Path.partsOf (Path.components path)) = .ok base := by
  have hlocate := h.locate
  rw [locate_eq h.ne_nil] at hlocate
  refine walk_of_filter ?_ h.directory
  rw [Path.filter_partsOf_components h.ne_nil]
  exact walk_filter hlocate

theorem isDirectory_ofComponents (h : LeadsTo disk path base) :
    disk.isDirectory (Path.ofComponents (Path.components path)) := by
  have hcanonical := Path.canonical_components h.ne_nil
  have hstart : disk.start (Path.ofComponents (Path.components path)) = disk.start path := by
    rw [start, start, Path.isAbsolute_ofComponents hcanonical, Path.head?_components h.ne_nil]
  refine isDirectory_iff.2 ⟨base, ?_, h.directory⟩
  rw [locate_eq (Path.ofComponents_ne_nil hcanonical), Path.split_ofComponents hcanonical, hstart]
  refine walk_append_iff.2 ⟨base, h.walk_partsOf, walk_of_forall_isIdle h.directory fun part hm => ?_⟩
  split at hm
  · rw [List.mem_singleton.1 hm]
    rfl
  · cases hm

/-- Names after the components of a path lead down from its place. -/
theorem eq_of_locate_ofComponents (h : LeadsTo disk path base) (hnames : Path.Below names)
    (hplace : disk.locate (Path.ofComponents (Path.components path ++ names)) = .ok place) : place = base ++ names := by
  have hstart : disk.start (Path.ofComponents (Path.components path ++ names)) = disk.start path := by
    rw [start, start, Path.isAbsolute_ofComponents_append h.ne_nil hnames.isPart]
  rw [locate_eq (ne_nil_of_locate hplace), Path.split_ofComponents_append h.ne_nil hnames, hstart] at hplace
  obtain ⟨next, hnext, hrest⟩ := walk_append_iff.1 hplace
  rw [h.walk_partsOf] at hnext
  cases hnext
  exact ((walk_names_iff hnames).1 hrest).1

theorem eq_of_locate_join (h : LeadsTo disk path base) (hnames : Path.Below names)
    (hplace : disk.locate (Path.join path (Path.ofNames names)) = .ok place) : place = base ++ names := by
  obtain ⟨root, hroot, hplace, -⟩ := (locate_join_iff hnames).1 hplace
  rw [h.walk_lead] at hroot
  cases hroot
  exact hplace

end LeadsTo

/-! ### What stays outside a directory -/

/-- The disks may differ below the base only. -/
structure AgreeOutside (base : Location) (disk disk' : Disk) : Prop where
  workingDirectory : disk'.workingDirectory = disk.workingDirectory
  at_base : disk'.root.occupant? base = disk.root.occupant? base
  occupant? : ∀ place, ¬ base <+: place → disk'.root.occupant? place = disk.root.occupant? place
  get? : ∀ place, ¬ base <+: place → ¬ place <+: base → disk'.root.get? place = disk.root.get? place

/-- Following the path comes to a place at or below the base, the start included. -/
def PassesThrough (disk : Disk) (path : Text) (base : Location) : Prop :=
  ∃ front place, front <+: path.split '/' ∧ disk.walk (disk.start path) front = .ok place ∧ base <+: place

instance (disk : Disk) (path : Text) (base : Location) : Decidable (disk.PassesThrough path base) :=
  decidable_of_iff (∃ front ∈ (path.split '/').inits, ∃ place ∈ (disk.walk (disk.start path) front).toOption,
    base <+: place) (by simp [PassesThrough, toOption_eq_some_iff])

namespace AgreeOutside

theorem refl (base : Location) (disk : Disk) : AgreeOutside base disk disk :=
  ⟨rfl, rfl, fun _ _ => rfl, fun _ _ _ => rfl⟩

theorem trans (h : AgreeOutside base disk disk') (h' : AgreeOutside base disk' disk'') :
    AgreeOutside base disk disk'' where
  workingDirectory := h'.workingDirectory.trans h.workingDirectory
  at_base := h'.at_base.trans h.at_base
  occupant? place hp := (h'.occupant? place hp).trans (h.occupant? place hp)
  get? place hp hp' := (h'.get? place hp hp').trans (h.get? place hp hp')

theorem of_puts {tree : Tree} (h : Puts disk (base ++ names) tree disk') (hne : names ≠ []) :
    AgreeOutside base disk disk' where
  workingDirectory := h.grows.workingDirectory
  at_base := h.occupant?_of_ne (by simpa using hne)
  occupant? place hp := h.occupant?_of_ne fun heq => hp (heq ▸ List.prefix_append base names)
  get? place hp hp' := by
    have hdirectory : base <+: (base ++ names).dropLast := by
      rw [List.dropLast_append_of_ne_nil hne]
      exact List.prefix_append base _
    refine h.get? place (fun hbelow => hp (hdirectory.trans hbelow)) fun habove => ?_
    rcases List.prefix_or_prefix_of_prefix habove hdirectory with hplace | hplace
    · exact hp' hplace
    · exact hp hplace

theorem of_makesBelow {above below : List Text} (hbase : LeadsTo disk out base)
    (habove : above = (Path.components out).reverse) (hbelow : ∀ name ∈ below, Path.isName name)
    (h : MakesBelow above below disk disk') : AgreeOutside base disk disk' := by
  obtain ⟨part, hne, hsuffix, hmade⟩ := h
  have hnames : Path.Below part.reverse :=
    ⟨by simpa using hne, fun name hm => hbelow name (hsuffix.subset (List.mem_reverse.1 hm))⟩
  obtain ⟨place, hputs, -, hplace⟩ := makeDirectory_ok hmade
  rw [habove, List.reverse_append, List.reverse_reverse] at hplace
  have heq := (hbase.grows hputs.grows).eq_of_locate_ofComponents hnames hplace
  rw [heq] at hputs
  exact of_puts hputs hnames.ne_nil

/-- Making directories below one that is there changes nothing outside it. -/
theorem makeDirectories (hbase : LeadsTo disk out base) (hnames : ∀ name ∈ names, Path.isName name) :
    AgreeOutside base disk (disk.makeDirectories (Path.components out ++ names).reverse).1 := by
  have hdirectory : disk.isDirectory (Path.ofComponents (Path.components out).reverse.reverse) := by
    rw [List.reverse_reverse]
    exact hbase.isDirectory_ofComponents
  have hreach : Relation.ReflTransGen (MakesBelow (Path.components out).reverse names.reverse) disk
      (disk.makeDirectories (names.reverse ++ (Path.components out).reverse)).1 :=
    makeDirectories_reach (.inr hdirectory)
  rw [List.reverse_append]
  generalize (disk.makeDirectories (names.reverse ++ (Path.components out).reverse)).1 = made at hreach
  suffices h : AgreeOutside base disk made ∧ LeadsTo made out base from h.1
  induction hreach with
  | refl => exact ⟨.refl base disk, hbase⟩
  | tail _ hstep ih =>
    obtain ⟨hagree, hleads⟩ := ih
    have hnext := of_makesBelow hleads rfl (by simpa using hnames) hstep
    obtain ⟨_, _, _, hmade⟩ := hstep
    exact ⟨hagree.trans hnext, hleads.grows (Extends.of_makeDirectory hmade).grows⟩

/-- Writing to a path below a directory changes nothing outside it. -/
theorem writeWhole (hbase : LeadsTo disk out base) (hnames : Path.Below names)
    (h : disk.writeWhole (Path.join out (Path.ofNames names)) text = (disk', .ok ())) :
    AgreeOutside base disk disk' := by
  rcases writeWhole_cases disk (Path.join out (Path.ofNames names)) text with
    ⟨e, herror⟩ | ⟨parent, place, hparent, hputs, hplace⟩
  · rw [h] at herror
    cases herror
  · rw [Path.parent?_join hbase.ne_nil hnames] at hparent
    have hparts : ∀ name ∈ names.dropLast, Path.IsPart name := fun name hm =>
      hnames.isPart name (List.dropLast_subset names hm)
    have hcanonical := (Path.canonical_components hbase.ne_nil).append hparts
    rw [h, ← Option.some.inj hparent, Path.components_ofComponents hcanonical] at hputs
    rw [h] at hplace
    have hmade := makeDirectories hbase fun name hm => hnames.isName name (List.dropLast_subset names hm)
    have hgrows := (Extends.of_makeDirectories disk (Path.components out ++ names.dropLast).reverse).grows
    have heq := (hbase.grows (hgrows.trans hputs.grows)).eq_of_locate_join hnames hplace
    rw [heq] at hputs
    exact hmade.trans (of_puts hputs hnames.ne_nil)

/-! ### Paths that do not pass through -/

theorem step (h : AgreeOutside base disk disk') (hlocation : ¬ base <+: location) (part : Text) :
    disk'.step location part = disk.step location part := by
  have hnext : disk'.root.occupant? (location ++ [part]) = disk.root.occupant? (location ++ [part]) := by
    by_cases hbelow : base <+: location ++ [part]
    · rcases List.prefix_concat_iff.1 hbelow with rfl | hbelow
      · exact h.at_base
      · exact absurd hbelow hlocation
    · exact h.occupant? _ hbelow
  rw [step_eq, step_eq, h.occupant? location hlocation, hnext]

theorem walk (h : AgreeOutside base disk disk')
    (hparts : ∀ front place, front <+: parts → disk.walk location front = .ok place → ¬ base <+: place) :
    disk'.walk location parts = disk.walk location parts := by
  induction parts generalizing location with
  | nil => rfl
  | cons part parts ih =>
    have hstep := h.step (hparts [] location List.nil_prefix rfl) part
    rw [Disk.walk, Disk.walk, List.foldlM_cons, List.foldlM_cons, hstep]
    cases hnext : disk.step location part with
    | error e => rfl
    | ok next =>
      refine ih fun front place hfront hplace => hparts (part :: front) place ?_ ?_
      · exact List.cons_prefix_cons.2 ⟨rfl, hfront⟩
      · exact walk_cons_iff.2 ⟨next, hnext, hplace⟩

theorem locate (h : AgreeOutside base disk disk') (hpath : ¬ disk.PassesThrough path base) :
    disk'.locate path = disk.locate path := by
  by_cases hnil : path = []
  · rw [hnil]
    rfl
  · have hstart : disk'.start path = disk.start path := by rw [start, start, h.workingDirectory]
    rw [locate_eq hnil, locate_eq hnil, hstart]
    exact h.walk fun front place hfront hplace hbelow => hpath ⟨front, place, hfront, hplace, hbelow⟩

end AgreeOutside

theorem not_prefix_of_locate (hpath : ¬ disk.PassesThrough path base) (h : disk.locate path = .ok place) :
    ¬ base <+: place := by
  rw [locate_eq (ne_nil_of_locate h)] at h
  exact fun hbelow => hpath ⟨_, place, List.prefix_rfl, h, hbelow⟩

end Disk

end Files

end Excerpt
