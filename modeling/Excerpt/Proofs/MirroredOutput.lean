import Excerpt.Proofs.OutsidePaths
import Excerpt.Proofs.RenderRuns

/-!
# What a rendering leaves in its output directory

The documents that are found have different paths below the directory that is rendered (`pairwise_discover`), so what
was written for one is not overwritten by what is written for another (`readText_renderAll`). After a run without a
fault the output of a document holds its text, unless the text is empty and there was no file to read: such an output is
not made. So a run that writes anything leaves another disk, and a check, which writes nothing, tells whether it would.
-/

namespace Excerpt

namespace Files

namespace Disk
variable {disk disk' : Disk} {location place root : Location} {path out text last : Text}
  {parts names names' : List Text} {content : Content}

/-- The last part of a path to a file is a name. -/
theorem isName_of_walk (h : disk.walk location (parts ++ [last]) = .ok place)
    (hfile : disk.root.occupant? place = some (.file content)) : ¬ Path.isIdle last ∧ last ≠ Path.dotDot := by
  obtain ⟨above, -, hlast⟩ := walk_append_iff.1 h
  rw [walk_singleton] at hlast
  have hdirectory := directory_of_step hlast
  have hdropLast : disk.root.occupant? above.dropLast = some .directory := by
    by_cases hnil : above = []
    · rwa [hnil] at hdirectory ⊢
    · have hsome : disk.root.occupant? (above.dropLast ++ [above.getLast hnil]) ≠ none := by
        rw [List.dropLast_concat_getLast hnil, hdirectory]
        simp
      exact Tree.occupant?_above hsome (List.cons_ne_nil _ _)
  rw [step_eq, hdirectory] at hlast
  constructor
  · intro hidle
    simp only [if_pos hidle] at hlast
    cases hlast
    rw [hdirectory] at hfile
    cases hfile
  · rintro rfl
    have hidle : ¬ Path.isIdle Path.dotDot := by decide
    simp only [if_neg hidle, if_true] at hlast
    cases hlast
    rw [hdropLast] at hfile
    cases hfile

theorem fileName?_of_file (h : disk.locate path = .ok place)
    (hfile : disk.root.occupant? place = some (.file content)) :
    ∃ name, Path.fileName? path = some name ∧ Path.isName name := by
  have hne := Text.split_ne_nil '/' path
  have hsplit := List.dropLast_concat_getLast hne
  have hslash : '/' ∉ (path.split '/').getLast hne := Text.not_mem_of_mem_split (List.getLast_mem hne)
  generalize (path.split '/').getLast hne = name at hsplit hslash
  rw [locate_eq (ne_nil_of_locate h), ← hsplit] at h
  obtain ⟨hidle, hdots⟩ := isName_of_walk h hfile
  have hlast : (Path.components path).getLast? = some name := by
    rw [Path.components, ← hsplit, List.filter_append]
    simp only [List.filter_cons, hidle, Bool.not_false, if_true, List.filter_nil]
    split
    · rw [← List.cons_append, List.getLast?_concat]
    · split
      · rw [← List.cons_append, List.getLast?_concat]
      · rw [List.getLast?_concat]
  have hroot : name ≠ Path.rootName := by
    rintro rfl
    exact hslash (by decide)
  have hdot : name ≠ Path.dot := by
    rintro rfl
    exact hidle (by decide)
  refine ⟨name, ?_, Path.isName_iff.2 ⟨hidle, hdots, hslash⟩⟩
  rw [Path.fileName?, hlast]
  simp [Option.filter, hroot, hdot, hdots]

theorem readText_writeWhole (h : disk.writeWhole path text = (disk', .ok ())) : disk'.readText path = .ok text := by
  obtain ⟨-, place, hplace, htext, -⟩ := writeWhole_ok h
  exact readText_eq_ok_iff.2 ⟨place, hplace, htext⟩

/-- Writing to one path below a base leaves the text at the place of another. -/
theorem textAt?_writeWhole_of_ne (hnames : Path.Below names') (hne : names ≠ names')
    (h : disk.writeWhole (Path.join out (Path.ofNames names')) text = (disk', .ok ())) :
    disk'.textAt? (follow (disk.start out) (Path.lead out) ++ names) =
      disk.textAt? (follow (disk.start out) (Path.lead out) ++ names) := by
  obtain ⟨hgrows, place, hplace, -⟩ := writeWhole_ok h
  obtain ⟨root, hroot, rfl, -⟩ := (locate_join_iff hnames).1 hplace
  rw [hgrows.start] at hroot
  rw [textAt?_writeWhole h hplace, if_neg]
  rw [eq_follow_of_walk hroot]
  exact fun heq => hne (List.append_cancel_left heq)

/-- A text at the place of a path below a base is read there, if the base leads up nowhere or is a directory. -/
theorem readText_of_textAt? (hnames : Path.Below names) (hbase : Path.dotDot ∉ out.split '/' ∨ disk.isDirectory out)
    (h : disk.textAt? (follow (disk.start out) (Path.lead out) ++ names) = some text) :
    disk.readText (Path.join out (Path.ofNames names)) = .ok text := by
  have hoccupant := textAt?_eq_some_iff.1 h
  have hwalk : disk.walk (disk.start out) (Path.lead out) = .ok (follow (disk.start out) (Path.lead out)) := by
    rcases hbase with hdots | hdirectory
    · refine walk_of_directory (fun hm => hdots (Path.mem_split_of_mem_lead hm)) ?_
      exact Tree.occupant?_above (by rw [hoccupant]; simp) hnames.ne_nil
    · obtain ⟨base, hlocate, hbase⟩ := isDirectory_iff.1 hdirectory
      have hwalk := LeadsTo.walk_lead ⟨hlocate, hbase⟩
      rwa [← eq_follow_of_walk hwalk]
  refine readText_eq_ok_iff.2 ⟨_, (locate_join_iff hnames).2 ⟨_, hwalk, rfl, ?_⟩, hoccupant⟩
  rw [hoccupant]
  simp

end Disk

end Files

namespace Command
open Files
variable {disk : Disk} {scope : Scope} {plan : Plan} {path out : Text} {entry : Entry} {entries : List Entry}
  {p p' : Progression} {root : Location} {names : List Text}

/-! ### The documents that are found -/

/-- The documents in a directory have the paths of different places below it. -/
theorem documentsIn_eq (path : Text) (tree : Tree) :
    ∃ places : List Location, (∀ names ∈ places, Path.Below names) ∧ places.Nodup ∧
      documentsIn path tree = places.map fun names => ⟨Path.join path (Path.ofNames names), Path.ofNames names⟩ := by
  let isDocument (p : Location × Content) : Bool :=
    (p.1.getLast?.map (Path.hasExtension documentExtension)).getD false
  refine ⟨((tree.files []).filter isDocument).map Prod.fst, ?_, ?_, ?_⟩
  · intro names hm
    obtain ⟨p, hp, rfl⟩ := List.mem_map.1 hm
    obtain ⟨hp, hdocument⟩ := List.mem_filter.1 hp
    obtain ⟨rest, hrest, hnames⟩ := Tree.files_below tree [] p hp
    refine ⟨?_, ?_⟩
    · intro hnil
      simp [isDocument, hnil] at hdocument
    · rwa [hrest]
  · exact List.pairwise_map.2 ((Tree.pairwise_files tree []).filter isDocument)
  · rw [List.map_map]
    rfl

def Entry.IsBelow (entry : Entry) : Prop := ∃ names, Path.Below names ∧ entry.relative = Path.ofNames names

theorem discover_cases (h : discover disk path = .ok entries) :
    (∃ name, Path.isName name ∧ entries = [⟨path, name⟩]) ∨
      ∃ place items, disk.locate path = .ok place ∧ disk.root.get? place = some (.directory items) ∧
        entries = documentsIn path (.directory items) := by
  unfold discover at h
  split at h
  next => cases h
  next place hplace =>
    split at h
    next => cases h
    next content hfile =>
      cases h
      obtain ⟨name, hname, hisName⟩ := Disk.fileName?_of_file hplace (Tree.occupant?_eq_file.2 hfile)
      exact .inl ⟨name, hisName, by rw [hname, Option.getD_some]⟩
    next tree hfile htree =>
      cases tree with
      | file content => exact absurd rfl (hfile content)
      | directory items =>
        simp only at h
        split at h
        next => cases h
        next =>
          cases h
          exact .inr ⟨place, items, hplace, htree, rfl⟩

theorem isBelow_discover (h : discover disk path = .ok entries) :
    ∀ entry ∈ entries, entry.IsBelow := by
  intro entry hm
  rcases discover_cases h with ⟨name, hname, rfl⟩ | ⟨place, items, -, -, rfl⟩
  · rw [List.mem_singleton.1 hm]
    exact ⟨[name], ⟨List.cons_ne_nil _ _, by simpa using hname⟩, by simp [Path.ofNames, Text.joinWith]⟩
  · obtain ⟨places, hbelow, -, heq⟩ := documentsIn_eq path (.directory items)
    rw [heq] at hm
    obtain ⟨names, hnames, rfl⟩ := List.mem_map.1 hm
    exact ⟨names, hbelow names hnames, rfl⟩

theorem pairwise_discover (h : discover disk path = .ok entries) :
    entries.Pairwise fun a b => a.relative ≠ b.relative := by
  rcases discover_cases h with ⟨name, -, rfl⟩ | ⟨place, items, -, -, rfl⟩
  · exact List.pairwise_singleton _ _
  · obtain ⟨places, hbelow, hnodup, heq⟩ := documentsIn_eq path (.directory items)
    rw [heq, List.pairwise_map]
    refine hnodup.imp_of_mem fun ha hb hne hrelative => hne ?_
    exact Path.ofNames_inj (hbelow _ ha) (hbelow _ hb) hrelative

/-! ### Outputs stay -/

theorem Placed.grows {target text : Text} (h : Placed plan target text p p') : Disk.Grows p.disk p'.disk := by
  rcases h.disk_cases with hdisk | hwrite
  · rw [hdisk]
    exact .refl p.disk
  · exact (Disk.writeWhole_ok hwrite).1

theorem grows_renderAll [Backend] (hout : plan.out = some out) (h : renderAll plan entries p = (p', none)) :
    Disk.Grows p.disk p'.disk := by
  induction entries generalizing p with
  | nil =>
    cases h
    exact .refl _
  | cons entry entries ih =>
    obtain ⟨next, hentry, hrest⟩ := renderAll_cons_iff.1 h
    obtain ⟨session, text, -, hplaced⟩ := renderEntry_cases hout hentry
    exact hplaced.grows.trans (ih hrest)

/-- Rendering other documents leaves the text at the place of an output. -/
theorem textAt?_renderAll [Backend] (hout : plan.out = some out) (hbelow : ∀ entry ∈ entries, entry.IsBelow)
    (hne : ∀ entry ∈ entries, entry.relative ≠ Path.ofNames names) (h : renderAll plan entries p = (p', none)) :
    p'.disk.textAt? (Disk.follow (p.disk.start out) (Path.lead out) ++ names) =
      p.disk.textAt? (Disk.follow (p.disk.start out) (Path.lead out) ++ names) := by
  induction entries generalizing p with
  | nil =>
    cases h
    rfl
  | cons entry entries ih =>
    obtain ⟨next, hentry, hrest⟩ := renderAll_cons_iff.1 h
    obtain ⟨⟨names', hnames', hrelative⟩, hbelow⟩ := List.forall_mem_cons.1 hbelow
    obtain ⟨hentryNe, hne⟩ := List.forall_mem_cons.1 hne
    obtain ⟨session, text, -, hplaced⟩ := renderEntry_cases hout hentry
    have hstart : next.disk.start out = p.disk.start out := hplaced.grows.start out
    refine .trans (hstart ▸ ih hbelow hne hrest) ?_
    rcases hplaced.disk_cases with hdisk | hwrite
    · rw [hdisk]
    · rw [hrelative] at hwrite hentryNe
      exact Disk.textAt?_writeWhole_of_ne hnames' (fun heq => hentryNe (heq ▸ rfl)) hwrite

/-- Rendering other documents leaves what is read at an output. -/
theorem readText_renderAll [Backend] (hout : plan.out = some out) (hnames : Path.Below names)
    (hbelow : ∀ entry ∈ entries, entry.IsBelow) (hne : ∀ entry ∈ entries, entry.relative ≠ Path.ofNames names)
    (hroot : p.disk.walk (p.disk.start out) (Path.lead out) = .ok root)
    (h : renderAll plan entries p = (p', none)) :
    (p'.disk.readText (Path.join out (Path.ofNames names))).toOption =
      (p.disk.readText (Path.join out (Path.ofNames names))).toOption := by
  have hroot' := (grows_renderAll hout h).walk_start hroot
  rw [Disk.readText_join hnames hroot', Disk.readText_join hnames hroot, Disk.eq_follow_of_walk hroot]
  exact textAt?_renderAll hout hbelow hne h

/-- A text that is read at an output is still read there after other documents were rendered. -/
theorem readText_renderAll_eq_ok [Backend] {text : Text} (hout : plan.out = some out) (hentry : entry.IsBelow)
    (hbelow : ∀ other ∈ entries, other.IsBelow) (hne : ∀ other ∈ entries, entry.relative ≠ other.relative)
    (h : renderAll plan entries p = (p', none))
    (hread : p.disk.readText (Path.join out entry.relative) = .ok text) :
    p'.disk.readText (Path.join out entry.relative) = .ok text := by
  obtain ⟨names, hnames, hrelative⟩ := hentry
  rw [hrelative] at hread hne ⊢
  obtain ⟨place, hplace, -⟩ := Disk.readText_eq_ok_iff.1 hread
  obtain ⟨root, hroot, -, -⟩ := (Disk.locate_join_iff hnames).1 hplace
  rw [← Disk.toOption_eq_some_iff] at hread ⊢
  rw [readText_renderAll hout hnames hbelow (fun other hm => (hne other hm).symm) hroot h, hread]

/-- What is read at an output after other documents were rendered was read there before, if the path of the output
directory leads up nowhere or the directory was there. -/
theorem readText_of_renderAll [Backend] {text : Text} (hout : plan.out = some out) (hentry : entry.IsBelow)
    (hbelow : ∀ other ∈ entries, other.IsBelow) (hne : ∀ other ∈ entries, entry.relative ≠ other.relative)
    (hbase : Path.dotDot ∉ out.split '/' ∨ p.disk.isDirectory out) (h : renderAll plan entries p = (p', none))
    (hread : p'.disk.readText (Path.join out entry.relative) = .ok text) :
    p.disk.readText (Path.join out entry.relative) = .ok text := by
  obtain ⟨names, hnames, hrelative⟩ := hentry
  rw [hrelative] at hread hne ⊢
  obtain ⟨place, hplace, hfile⟩ := Disk.readText_eq_ok_iff.1 hread
  obtain ⟨root, hroot, rfl, -⟩ := (Disk.locate_join_iff hnames).1 hplace
  rw [(grows_renderAll hout h).start] at hroot
  refine Disk.readText_of_textAt? hnames hbase ?_
  rw [← textAt?_renderAll hout hbelow (fun other hm => (hne other hm).symm) h, ← Disk.eq_follow_of_walk hroot]
  exact Disk.textAt?_eq_some_iff.2 hfile

theorem currentText_of_readText {target text : Text} (h : disk.readText target = .ok text) :
    currentText disk target = text := by
  rw [currentText, h]
  rfl

/-- A run that writes anything leaves another text at some output. -/
theorem currentText_ne_of_written [Backend] (hout : plan.out = some out) (hbelow : ∀ entry ∈ entries, entry.IsBelow)
    (hpairwise : entries.Pairwise fun a b => a.relative ≠ b.relative) (h : renderAll plan entries p = (p', none))
    (hwritten : p'.tally.written ≠ p.tally.written) :
    ∃ target, currentText p'.disk target ≠ currentText p.disk target := by
  induction entries generalizing p with
  | nil =>
    cases h
    exact absurd rfl hwritten
  | cons entry entries ih =>
    obtain ⟨next, hentry, hrest⟩ := renderAll_cons_iff.1 h
    obtain ⟨hentryBelow, hbelow⟩ := List.forall_mem_cons.1 hbelow
    obtain ⟨hne, hpairwise⟩ := List.pairwise_cons.1 hpairwise
    obtain ⟨session, text, -, hplaced⟩ := renderEntry_cases hout hentry
    rcases hplaced with ⟨-, rfl⟩ | ⟨-, hdisk, -, htally⟩ | ⟨-, hcurrent, hwrite, -, -⟩
    · have hdiffers := ih hbelow hpairwise hrest hwritten
      exact hdiffers
    · have hdisk : next.disk = p.disk := hdisk
      rw [← hdisk]
      exact ih hbelow hpairwise hrest (by rwa [htally])
    · have hread := readText_renderAll_eq_ok hout hentryBelow hbelow hne hrest (Disk.readText_writeWhole hwrite)
      refine ⟨Path.join out entry.relative, ?_⟩
      rw [currentText_of_readText hread]
      exact hcurrent.symm

/-- To write no output is to leave the disk as it is. -/
theorem written_eq_zero_iff [Backend] (hout : plan.out = some out) (hcode : (render disk scope path plan).code = 0) :
    written disk scope path plan = 0 ↔ (render disk scope path plan).disk = disk := by
  constructor
  · intro hwritten
    have hcurrent : Current disk scope path out := (code_and_written_eq_zero_iff hout).1 ⟨hcode, hwritten⟩
    obtain ⟨-, entries, -, hrender⟩ := hcurrent.render_eq plan hout
    rw [hrender]
  · intro hdisk
    by_contra hwritten
    obtain ⟨session, entries, last, hrun⟩ := finishes_of_code hcode
    rw [hrun.written_eq] at hwritten
    rw [hrun.render_eq] at hdisk
    have hdisk : last.disk = disk := hdisk
    obtain ⟨target, hne⟩ := currentText_ne_of_written hout (isBelow_discover hrun.found)
      (pairwise_discover hrun.found) hrun.rendered hwritten
    rw [hdisk] at hne
    exact hne rfl

/-! ### Finished runs -/

/-- Where a file that cannot be read would pass for an empty text, there must be a text or a file. -/
theorem Placed.readText_eq_ok {target text : Text} (h : Placed plan target text p p') (hcheck : plan.check = false)
    (hor : text ≠ [] ∨ ∃ old, p.disk.readText target = .ok old) : p'.disk.readText target = .ok text := by
  rcases h with ⟨hcurrent, rfl⟩ | ⟨hcheck', -, -, -⟩ | ⟨-, -, hwrite, -, -⟩
  · show p.disk.readText target = .ok text
    rw [currentText] at hcurrent
    rcases hread : p.disk.readText target with e | old
    · rw [hread] at hcurrent hor
      rcases hor with htext | ⟨old, hold⟩
      · exact absurd hcurrent.symm htext
      · cases hold
    · rw [hread] at hcurrent
      exact congrArg Except.ok hcurrent
  · rw [hcheck] at hcheck'
    cases hcheck'
  · exact Disk.readText_writeWhole hwrite

/-- An empty text is not written where nothing can be read. -/
theorem Placed.disk_eq_of_nil {target : Text} (h : Placed plan target [] p p')
    (hunread : ¬ ∃ old, p.disk.readText target = .ok old) : p'.disk = p.disk := by
  rcases h with ⟨-, rfl⟩ | ⟨-, hdisk, -, -⟩ | ⟨-, hcurrent, -, -, -⟩
  · rfl
  · exact hdisk
  · refine absurd ?_ hcurrent
    cases hread : p.disk.readText target with
    | error e =>
      rw [currentText, hread]
      rfl
    | ok old => exact absurd ⟨old, hread⟩ hunread

/-- Once a rendering reached its summary, the output of each document holds the text that the document was rendered to
when its turn came, unless that text is empty and the output could be read neither before the run nor at that turn. In
that case nothing is written at the turn. Where the path of the output directory leads up nowhere, or the directory was
there before the run, the output can then not be read after the run either. -/
theorem readText_output [Backend] {arguments : List Text} {diff : Bool} {session : Session} {before after : List Entry}
    {last : Progression} (hparse : parse arguments = .ok (scope, .render path (some out) false diff))
    (hrun : Finishes disk scope path ⟨some out, false, diff⟩ session (before ++ entry :: after) last) :
    ∃ turn next session' text, renderAll ⟨some out, false, diff⟩ before (.start disk session) = (turn, none) ∧
      renderEntry ⟨some out, false, diff⟩ entry turn = (next, none) ∧
      Renders turn.disk turn.session entry session' text ∧
      (text ≠ [] ∨ (∃ old, disk.readText (Path.join out entry.relative) = .ok old) ∨
          (∃ old, turn.disk.readText (Path.join out entry.relative) = .ok old) →
        (run disk arguments).disk.readText (Path.join out entry.relative) = .ok text) ∧
      (text = [] → (¬ ∃ old, turn.disk.readText (Path.join out entry.relative) = .ok old) →
        next.disk = turn.disk) ∧
      (Path.dotDot ∉ out.split '/' ∨ disk.isDirectory out →
        ((∃ shown, (run disk arguments).disk.readText (Path.join out entry.relative) = .ok shown) ↔
          text ≠ [] ∨ ∃ old, disk.readText (Path.join out entry.relative) = .ok old)) := by
  have hbelow := isBelow_discover hrun.found
  have hpairwise := pairwise_discover hrun.found
  rw [List.forall_mem_append, List.forall_mem_cons] at hbelow
  obtain ⟨hbefore, hentry, hafter⟩ := hbelow
  rw [List.pairwise_append, List.pairwise_cons] at hpairwise
  obtain ⟨-, ⟨hne, -⟩, hcross⟩ := hpairwise
  have hneBefore : ∀ other ∈ before, entry.relative ≠ other.relative := fun other hm =>
    (hcross other hm entry List.mem_cons_self).symm
  obtain ⟨turn, hturn, hrest⟩ := renderAll_append_iff.1 hrun.rendered
  obtain ⟨next, hnext, hlast⟩ := renderAll_cons_iff.1 hrest
  obtain ⟨session', text, hrenders, hplaced⟩ := renderEntry_cases rfl hnext
  have hdisk : (run disk arguments).disk = last.disk := by
    rw [run_eq_render hparse, hrun.render_eq]
    rfl
  have hheld : text ≠ [] ∨ (∃ old, disk.readText (Path.join out entry.relative) = .ok old) ∨
      (∃ old, turn.disk.readText (Path.join out entry.relative) = .ok old) →
      last.disk.readText (Path.join out entry.relative) = .ok text := by
    intro hor
    have hreadable : text ≠ [] ∨ ∃ old, turn.disk.readText (Path.join out entry.relative) = .ok old := by
      rcases hor with htext | ⟨old, hold⟩ | hold
      · exact .inl htext
      · -- what could be read before the run can still be read when the turn comes
        exact .inr ⟨old, readText_renderAll_eq_ok rfl hentry hbefore hneBefore hturn hold⟩
      · exact .inr hold
    exact readText_renderAll_eq_ok rfl hentry hafter hne hlast (hplaced.readText_eq_ok rfl hreadable)
  have hkept : text = [] → (¬ ∃ old, turn.disk.readText (Path.join out entry.relative) = .ok old) →
      next.disk = turn.disk := by
    rintro rfl hunread
    exact hplaced.disk_eq_of_nil hunread
  rw [hdisk]
  refine ⟨turn, next, session', text, hturn, hnext, hrenders, hheld, hkept, fun hbase => ⟨?_, fun hor => ?_⟩⟩
  · rintro ⟨shown, hshown⟩
    by_contra hnone
    obtain ⟨htext, hunread⟩ := not_or.1 hnone
    have hbaseTurn := hbase.imp_right (grows_renderAll rfl hturn).isDirectory
    -- what could be read at the turn could be read before the run
    have hunreadTurn : ¬ ∃ old, turn.disk.readText (Path.join out entry.relative) = .ok old := fun ⟨old, hold⟩ =>
      hunread ⟨old, readText_of_renderAll rfl hentry hbefore hneBefore hbase hturn hold⟩
    have hsame := hkept (not_not.1 htext) hunreadTurn
    refine hunreadTurn ⟨shown, ?_⟩
    rw [← hsame] at hbaseTurn ⊢
    exact readText_of_renderAll rfl hentry hafter hne hbaseTurn hlast hshown
  · exact ⟨text, hheld (hor.imp_right .inl)⟩

/-- A directory with a document that asks for a file and an empty one, and the output of the latter from before. -/
def twoDocuments : Disk :=
  ⟨.directory
    [("docs".toList, .directory
      [("a.md".toList, .file (.text "```txt [note.txt]\n```\n".toList)), ("b.md".toList, .file (.text [])),
        ("note.txt".toList, .file (.text "note\n".toList))]),
      ("site".toList, .directory [("b.md".toList, .file (.text "old\n".toList))])], []⟩

def renderDocs : List Text := ["render".toList, "docs".toList, "--out".toList, "site".toList]

def checkDocs : List Text := renderDocs ++ ["--check".toList, "--diff".toList]

theorem parse_renderDocs :
    parse renderDocs = .ok (⟨none, []⟩, .render "docs".toList (some "site".toList) false false) := rfl

theorem parse_checkDocs :
    parse checkDocs = .ok (⟨none, []⟩, .render "docs".toList (some "site".toList) true true) := rfl

theorem readText_output_replaced :
    ∃ session last,
      Finishes twoDocuments ⟨none, []⟩ "docs".toList ⟨some "site".toList, false, false⟩ session
        ([⟨"docs/a.md".toList, "a.md".toList⟩] ++ ⟨"docs/b.md".toList, "b.md".toList⟩ :: []) last ∧
      ∃ turn session' text, renderAll ⟨some "site".toList, false, false⟩ [⟨"docs/a.md".toList, "a.md".toList⟩]
          (.start twoDocuments session) = (turn, none) ∧
        Renders turn.disk turn.session ⟨"docs/b.md".toList, "b.md".toList⟩ session' text ∧
        (run twoDocuments renderDocs).disk.readText "site/b.md".toList = .ok text := by
  have hopened : openSession twoDocuments ⟨none, []⟩ = .ok (Session.new Config.empty.registry [['/']]) := rfl
  have hfound : discover twoDocuments "docs".toList =
      .ok ([⟨"docs/a.md".toList, "a.md".toList⟩] ++ ⟨"docs/b.md".toList, "b.md".toList⟩ :: []) := rfl
  have hcode : (render twoDocuments ⟨none, []⟩ "docs".toList ⟨some "site".toList, false, false⟩).code = 0 := by
    decide +kernel
  have hold : twoDocuments.readText "site/b.md".toList = .ok "old\n".toList := by decide +kernel
  obtain ⟨last, hrun⟩ := exists_finishes hopened hfound hcode
  obtain ⟨turn, -, session', text, hturn, -, hrenders, htext, -⟩ := readText_output parse_renderDocs hrun
  exact ⟨_, last, hrun, turn, session', text, hturn, hrenders, htext (.inr (.inl ⟨_, hold⟩))⟩

/-- The output of an empty document is not made where there was none. -/
theorem not_readText_output_of_empty :
    let disk : Disk := ⟨.directory [("docs".toList, .directory [("empty.md".toList, .file (.text []))])], []⟩
    (∃ session last, Finishes disk ⟨none, []⟩ "docs".toList ⟨some "site".toList, false, false⟩ session
        [⟨"docs/empty.md".toList, "empty.md".toList⟩] last ∧
      ∃ session', Renders disk session ⟨"docs/empty.md".toList, "empty.md".toList⟩ session' []) ∧
      (run disk renderDocs).code = 0 ∧
      (run disk renderDocs).disk.readText "site/empty.md".toList = .error .notFound := by
  intro disk
  have hopened : openSession disk ⟨none, []⟩ = .ok (Session.new Config.empty.registry [['/']]) := rfl
  have hfound : discover disk "docs".toList = .ok [⟨"docs/empty.md".toList, "empty.md".toList⟩] := rfl
  have hcode : (render disk ⟨none, []⟩ "docs".toList ⟨some "site".toList, false, false⟩).code = 0 := by decide +kernel
  have hempty : ∀ session, Document.render disk "docs/empty.md".toList session [] = (session, []) := by
    intro session
    have hcut : Block.cut (Text.rawLines []) = [] := by decide +kernel
    rw [Document.render, hcut]
    rfl
  obtain ⟨last, hrun⟩ := exists_finishes hopened hfound hcode
  exact ⟨⟨_, last, hrun, _, [], rfl, hempty _⟩, by decide +kernel, by decide +kernel⟩

/-! ### Checks -/

/-- A check changes nothing, and it succeeds just if the rendering succeeds and writes no output. To write no output is
to leave the disk as it is. -/
theorem code_check_eq_zero_iff [Backend] {write check : List Text} {diff diff' : Bool}
    (hwrite : parse write = .ok (scope, .render path (some out) false diff))
    (hcheck : parse check = .ok (scope, .render path (some out) true diff')) :
    (run disk check).disk = disk ∧
      ((run disk check).code = 0 ↔
        (run disk write).code = 0 ∧ written disk scope path ⟨some out, false, diff⟩ = 0) ∧
      ((run disk write).code = 0 →
        (written disk scope path ⟨some out, false, diff⟩ = 0 ↔ (run disk write).disk = disk)) := by
  rw [run_eq_render hwrite, run_eq_render hcheck]
  refine ⟨disk_render_of_check rfl, ?_, written_eq_zero_iff rfl⟩
  rw [code_check_iff rfl rfl, code_and_written_eq_zero_iff rfl]

theorem code_check_stale :
    (run twoDocuments checkDocs).disk = twoDocuments ∧
      ((run twoDocuments checkDocs).code = 0 ↔ (run twoDocuments renderDocs).code = 0 ∧
        written twoDocuments ⟨none, []⟩ "docs".toList ⟨some "site".toList, false, false⟩ = 0) ∧
      (written twoDocuments ⟨none, []⟩ "docs".toList ⟨some "site".toList, false, false⟩ = 0 ↔
        (run twoDocuments renderDocs).disk = twoDocuments) ∧
      (run twoDocuments checkDocs).code = 1 ∧ (run twoDocuments renderDocs).code = 0 := by
  have hzero : (run twoDocuments renderDocs).code = 0 := by decide +kernel
  obtain ⟨hdisk, hcode, hwritten⟩ := code_check_eq_zero_iff parse_renderDocs parse_checkDocs
  exact ⟨hdisk, hcode, hwritten hzero, by decide +kernel, hzero⟩

end Command

end Excerpt
