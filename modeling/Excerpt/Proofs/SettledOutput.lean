import Excerpt.Command.Need
import Excerpt.Proofs.Answers
import Excerpt.Proofs.CanonicalTargets
import Excerpt.Proofs.MirroredOutput
import Excerpt.Proofs.OutsidePaths

/-!
# A check after a rendering

A rendering whose inputs lie outside its output directory reads the same before and after it writes: the configuration,
the documents and the files of the directives are those of the disk it started with (`renders_congr`). So a check right
after it renders the same texts, and finds them in place.
-/

namespace Excerpt

/-! ### Reading outside a directory -/

namespace Files

namespace Disk
variable {disk disk' : Disk} {location place found base : Location} {path : Text} {names : List Text}

theorem AgreeOutside.readText (h : AgreeOutside base disk disk') (hpath : ¬ disk.PassesThrough path base) :
    disk'.readText path = disk.readText path := by
  rw [Disk.readText, Disk.readText, h.locate hpath]
  cases hplace : disk.locate path with
  | error e => rfl
  | ok place =>
    have hoccupant := h.occupant? place (not_prefix_of_locate hpath hplace)
    rcases htree : disk.root.get? place with _ | ⟨content⟩ | ⟨entries⟩
    · rw [Tree.occupant?_eq_none.2 htree, Tree.occupant?_eq_none] at hoccupant
      simp only [hoccupant, htree]
    · rw [Tree.occupant?_eq_file.2 htree, Tree.occupant?_eq_file] at hoccupant
      simp only [hoccupant, htree]
    · rw [Tree.occupant?_eq_directory.2 ⟨entries, htree⟩, Tree.occupant?_eq_directory] at hoccupant
      obtain ⟨entries', htree'⟩ := hoccupant
      simp only [htree', htree]

theorem eq_of_walk_names (hnames : ∀ name ∈ names, Path.isName name) (h : disk.walk location names = .ok found) :
    found = location ++ names := by
  by_cases hnil : names = []
  · subst hnil
    cases h
    rw [List.append_nil]
  · exact ((walk_names_iff ⟨hnil, hnames⟩).1 h).1

/-- The path of a place below one that is neither below the base nor above it. -/
theorem not_passesThrough_join (hpath : ¬ disk.PassesThrough path base) (hplace : LeadsTo disk path place)
    (hover : ¬ place <+: base) (hnames : Path.Below names) :
    ¬ disk.PassesThrough (Path.join path (Path.ofNames names)) base := by
  rintro ⟨front, found, ⟨rest, hrest⟩, hwalk, hbelow⟩
  rw [start_join hnames] at hwalk
  rw [Path.split_join hnames] at hrest
  rcases List.append_eq_append_iff.1 hrest with ⟨after, hlead, -⟩ | ⟨names', rfl, hnames'⟩
  · have hsplit : Path.lead path <+: path.split '/' := by
      rcases (Path.split_eq_lead hplace.ne_nil).2 with hsplit | hsplit
      · rw [hsplit]
      · rw [hsplit]
        exact List.prefix_append _ _
    exact hpath ⟨front, found, .trans ⟨after, hlead.symm⟩ hsplit, hwalk, hbelow⟩
  · obtain ⟨next, hnext, hwalk⟩ := walk_append_iff.1 hwalk
    rw [hplace.walk_lead] at hnext
    cases hnext
    have hfound := eq_of_walk_names (fun name hm => hnames.isName name (hnames' ▸ List.mem_append_left _ hm)) hwalk
    rw [hfound] at hbelow
    rcases List.prefix_or_prefix_of_prefix hbelow (List.prefix_append place names') with hbelow | habove
    · exact not_prefix_of_locate hpath hplace.locate hbelow
    · exact hover habove

theorem not_passesThrough_pathOf (hnames : Path.Below place) (hplace : ¬ base <+: place) :
    ¬ disk.PassesThrough (pathOf place) base := by
  rintro ⟨front, found, hfront, hwalk, hbelow⟩
  -- only the names count, and these lead down from the root
  have hfilter := hfront.filter fun part => !Path.isIdle part
  rw [split_pathOf hnames, List.filter_cons_of_neg (by decide), Path.filter_of_isPart hnames.isPart] at hfilter
  have hfound := eq_of_walk_names (fun name hm => hnames.isName name (hfilter.subset hm)) (walk_filter hwalk)
  have hstart : disk.start (pathOf place) = [] := rfl
  rw [hfound, hstart] at hbelow
  exact hplace (hbelow.trans hfilter)

end Disk

end Files

namespace Target
open Files
variable {disk disk' : Disk} {place base : Location} {path target : Text} {directory : Option Text} {roots : List Text}

theorem fileLocation?_congr (h : Disk.AgreeOutside base disk disk') (hpath : ¬ disk.PassesThrough path base) :
    fileLocation? disk' path = fileLocation? disk path := by
  apply Option.ext
  intro place
  rw [fileLocation?_eq_some_iff, fileLocation?_eq_some_iff, h.locate hpath]
  refine and_congr_right fun hplace => ?_
  rw [h.occupant? place (Disk.not_prefix_of_locate hpath hplace)]

theorem resolve_congr (h : Disk.AgreeOutside base disk disk')
    (hcandidates : ∀ candidate ∈ candidates target directory roots, ¬ disk.PassesThrough candidate base) :
    resolve disk' target directory roots = resolve disk target directory roots := by
  have hfind : ∀ paths : List Text, (∀ path ∈ paths, ¬ disk.PassesThrough path base) →
      paths.findSome? (fileLocation? disk') = paths.findSome? (fileLocation? disk) := by
    intro paths hpaths
    induction paths with
    | nil => rfl
    | cons path rest ih =>
      obtain ⟨hpath, hrest⟩ := List.forall_mem_cons.1 hpaths
      rw [List.findSome?_cons, List.findSome?_cons, fileLocation?_congr h hpath, ih hrest]
  rw [resolve, resolve, hfind _ hcandidates]

/-- The path that a target names leads to a place outside the base. -/
theorem not_passesThrough_of_resolve (h : resolve disk target directory roots = .ok path)
    (hcandidates : ∀ candidate ∈ candidates target directory roots, ¬ disk.PassesThrough candidate base) :
    ¬ disk.PassesThrough path base := by
  simp only [resolve] at h
  split at h
  next place hfind =>
    cases h
    obtain ⟨candidate, hm, hcandidate⟩ := List.exists_of_findSome?_eq_some hfind
    have hplace := (fileLocation?_eq_some hcandidate).1
    have hnames := below_of_denotes (fileLocation?_iff_denotes.1 hcandidate)
    exact Disk.not_passesThrough_pathOf hnames (Disk.not_prefix_of_locate (hcandidates candidate hm) hplace)
  next => cases h

end Target

/-! ### Rendering with inputs outside a directory -/

section Congr
open Files
variable [Backend] {disk disk' : Disk} {base : Location} {session : Session} {directive : Directive}
  {directory : Option Text} {path document : Text} {roots : List Text} {blocks : List Block}

theorem Session.extractFrom_congr (h : disk'.readText path = disk.readText path) :
    session.extractFrom disk' directive path = session.extractFrom disk directive path := by
  have hload : Extractor.load disk' path = Extractor.load disk path := by rw [Extractor.load, Extractor.load, h]
  have hfetch : ∀ cache : Cache, cache.fetch path (Extractor.load disk') = cache.fetch path (Extractor.load disk) := by
    intro cache
    rw [Cache.fetch, Cache.fetch, hload]
  simp only [extractFrom, Extractor.whole, Extractor.member, h, hfetch]

theorem Session.extract_congr (h : Disk.AgreeOutside base disk disk')
    (hcandidates : ∀ candidate ∈ Target.candidates directive.path directory session.roots,
      ¬ disk.PassesThrough candidate base) :
    session.extract disk' directive directory = session.extract disk directive directory := by
  rw [extract, extract, Target.resolve_congr h hcandidates]
  cases hresolve : Target.resolve disk directive.path directory session.roots with
  | error e => rfl
  | ok path =>
    have hread := h.readText (Target.not_passesThrough_of_resolve hresolve hcandidates)
    simp only [extractFrom_congr hread]

theorem Document.renderBlock_congr {number : Nat} {block : Block}
    (h : ∀ directive, directive? block = some directive →
      session.extract disk' directive (Path.directory? document) =
        session.extract disk directive (Path.directory? document)) :
    renderBlock disk' document session number block = renderBlock disk document session number block := by
  cases block with
  | plain line => rfl
  | code fence first body last =>
    simp only [renderBlock]
    split
    next hdirective =>
      simp only [directive?, hdirective, if_true] at h
      have hexcerpt : excerptOf disk' session (Path.directory? document) fence =
          excerptOf disk session (Path.directory? document) fence := by
        unfold excerptOf
        cases hparse : Directive.parse? fence.info with
        | none => rfl
        | some directive => simp only [h directive hparse]
      rw [hexcerpt]
    next => rfl

theorem Document.renderBlocks_congr {number : Nat} (h : Disk.AgreeOutside base disk disk')
    (hcandidates : ∀ directive ∈ blocks.filterMap directive?, ∀ candidate ∈
      Target.candidates directive.path (Path.directory? document) session.roots, ¬ disk.PassesThrough candidate base) :
    renderBlocks disk' document session number blocks = renderBlocks disk document session number blocks := by
  induction blocks generalizing session number with
  | nil => rfl
  | cons block blocks ih =>
    have hblock : renderBlock disk' document session number block = renderBlock disk document session number block :=
      renderBlock_congr fun directive hdirective => Session.extract_congr h
        (hcandidates directive (List.mem_filterMap.2 ⟨block, List.mem_cons_self, hdirective⟩))
    have hroots : (renderBlock disk document session number block).1.roots = session.roots := by
      rw [renderBlock_eq (.refl disk session)]
      exact (Session.agrees_serve disk _ session _).roots
    rw [renderBlocks, renderBlocks, hblock]
    simp only
    rw [ih]
    rw [hroots]
    intro directive hm
    obtain ⟨other, hother, hdirective⟩ := List.mem_filterMap.1 hm
    exact hcandidates directive (List.mem_filterMap.2 ⟨other, List.mem_cons_of_mem _ hother, hdirective⟩)

end Congr

namespace Command
open Files
variable {disk disk' : Disk} {base : Location} {scope : Scope} {plan : Plan} {path out : Text} {entry : Entry}
  {entries : List Entry} {p p' : Progression}

/-- The configuration file that is asked for, or the one that is looked for. -/
def configPath (disk : Disk) (scope : Scope) : Text :=
  scope.config.getD (Path.join disk.workingPath Config.defaultFile)

theorem isFile_congr (h : Disk.AgreeOutside base disk disk') (hpath : ¬ disk.PassesThrough path base) :
    disk'.isFile path = disk.isFile path := by
  have hisFile : ∀ d : Disk, d.isFile path = (Target.fileLocation? d path).isSome := by
    intro d
    unfold Disk.isFile Disk.entry? Target.fileLocation?
    cases d.locate path with
    | error e => rfl
    | ok place =>
      dsimp only
      rcases d.root.get? place with _ | _ | _ <;> rfl
  rw [hisFile, hisFile, Target.fileLocation?_congr h hpath]

theorem openSession_congr (h : Disk.AgreeOutside base disk disk')
    (hconfig : ¬ disk.PassesThrough (configPath disk scope) base) :
    openSession disk' scope = openSession disk scope := by
  have hworking : disk'.workingPath = disk.workingPath := by
    rw [Disk.workingPath, Disk.workingPath, h.workingDirectory]
  have hload : Config.load disk' (configPath disk scope) = Config.load disk (configPath disk scope) := by
    rw [Config.load, Config.load, h.readText hconfig]
  have hsettings : settings disk' scope = settings disk scope := by
    unfold settings
    rw [hworking]
    cases hscope : scope.config with
    | some path =>
      have hpath : configPath disk scope = path := by rw [configPath, hscope, Option.getD_some]
      rw [hpath] at hload
      simp only [Option.some_or, hload]
    | none =>
      have hpath : configPath disk scope = Path.join disk.workingPath Config.defaultFile := by
        rw [configPath, hscope, Option.getD_none]
      rw [hpath] at hload hconfig
      simp only [Option.none_or, isFile_congr h hconfig]
      cases disk.isFile (Path.join disk.workingPath Config.defaultFile) with
      | true => simp only [if_true, hload]
      | false => rfl
  have hroots : rootsOf disk' scope = rootsOf disk scope := by
    funext config base
    rw [rootsOf, rootsOf, hworking]
  rw [openSession, openSession, hsettings, hroots]

theorem discover_congr (h : Disk.AgreeOutside base disk disk') (hpath : ¬ disk.PassesThrough path base)
    (hover : ∀ place, disk.locate path = .ok place → ¬ place <+: base) : discover disk' path = discover disk path := by
  rw [discover, discover, h.locate hpath]
  cases hplace : disk.locate path with
  | error e => rfl
  | ok place => simp only [h.get? place (Disk.not_prefix_of_locate hpath hplace) (hover place hplace)]

/-- The document and the files that its directives ask for are looked for outside the base. -/
structure Entry.IsOutside (disk : Disk) (roots : List Text) (base : Location) (entry : Entry) : Prop where
  document : ¬ disk.PassesThrough entry.document base
  candidates : ∀ candidate, Need.entry candidate ∈ documentNeeds disk roots entry → ¬ disk.PassesThrough candidate base

theorem isOutside_of_discover {roots : List Text} (hfound : discover disk path = .ok entries)
    (hpath : ¬ disk.PassesThrough path base) (hover : ∀ place, disk.locate path = .ok place → ¬ place <+: base)
    (hneeds : ∀ candidate, Need.entry candidate ∈ renderNeeds disk roots path → ¬ disk.PassesThrough candidate base) :
    ∀ entry ∈ entries, entry.IsOutside disk roots base := by
  intro entry hm
  refine ⟨?_, fun candidate hcandidate => hneeds candidate ?_⟩
  · rcases discover_cases hfound with ⟨name, -, rfl⟩ | ⟨place, items, hplace, htree, rfl⟩
    · rw [List.mem_singleton.1 hm]
      exact hpath
    · obtain ⟨places, hbelow, -, heq⟩ := documentsIn_eq path (.directory items)
      rw [heq] at hm
      obtain ⟨names, hnames, rfl⟩ := List.mem_map.1 hm
      have hleads : disk.LeadsTo path place := ⟨hplace, Tree.occupant?_eq_directory.2 ⟨items, htree⟩⟩
      exact Disk.not_passesThrough_join hpath hleads (hover place hplace) (hbelow names hnames)
  · rw [renderNeeds, hfound]
    exact List.mem_flatMap.2 ⟨entry, hm, hcandidate⟩

theorem renders_congr [Backend] {session session' : Session} {text : Text} (h : Disk.AgreeOutside base disk disk')
    (hentry : entry.IsOutside disk session.roots base) :
    Renders disk' session entry session' text ↔ Renders disk session entry session' text := by
  unfold Renders
  rw [h.readText hentry.document]
  refine exists_congr fun markdown => and_congr_right fun hread => ?_
  have hrender : Document.render disk' entry.document session markdown =
      Document.render disk entry.document session markdown := by
    refine Document.renderBlocks_congr h fun directive hm candidate hcandidate => ?_
    refine hentry.candidates candidate ?_
    rw [documentNeeds, hread]
    refine List.mem_flatMap.2 ⟨directive, ?_, List.mem_map.2 ⟨candidate, hcandidate, rfl⟩⟩
    exact hm
  rw [hrender]

theorem roots_of_renders [Backend] {session session' : Session} {text : Text}
    (h : Renders disk session entry session' text) : session'.roots = session.roots := by
  obtain ⟨markdown, -, hrender⟩ := h
  have hroots := (Document.agrees_render disk entry.document session markdown).roots
  rwa [hrender] at hroots

/-! ### What a run changes -/

theorem agreeOutside_renderEntry [Backend] (hout : plan.out = some out) (hbase : p.disk.LeadsTo out base)
    (hbelow : entry.IsBelow) (h : renderEntry plan entry p = (p', none)) :
    Disk.AgreeOutside base p.disk p'.disk ∧ p'.disk.LeadsTo out base := by
  obtain ⟨session, text, -, hplaced⟩ := renderEntry_cases hout h
  rcases hplaced.disk_cases with hdisk | hwrite
  · have hdisk : p'.disk = p.disk := hdisk
    rw [hdisk]
    exact ⟨.refl base p.disk, hbase⟩
  · obtain ⟨names, hnames, hrelative⟩ := hbelow
    rw [hrelative] at hwrite
    exact ⟨.writeWhole hbase hnames hwrite, hbase.grows (Disk.writeWhole_ok hwrite).1⟩

theorem agreeOutside_renderAll [Backend] (hout : plan.out = some out) (hbase : p.disk.LeadsTo out base)
    (hbelow : ∀ entry ∈ entries, entry.IsBelow) (h : renderAll plan entries p = (p', none)) :
    Disk.AgreeOutside base p.disk p'.disk := by
  induction entries generalizing p with
  | nil =>
    cases h
    exact .refl base _
  | cons entry entries ih =>
    obtain ⟨next, hentry, hrest⟩ := renderAll_cons_iff.1 h
    obtain ⟨hentryBelow, hbelow⟩ := List.forall_mem_cons.1 hbelow
    obtain ⟨hagree, hbase'⟩ := agreeOutside_renderEntry hout hbase hentryBelow hentry
    exact hagree.trans (ih hbase' hbelow hrest)

/-- After a run the text of every document is in place. -/
theorem upToDate_of_rendered [Backend] (hout : plan.out = some out) (hcheck : plan.check = false)
    (hagree : Disk.AgreeOutside base disk p.disk) (hbase : p.disk.LeadsTo out base)
    (hbelow : ∀ entry ∈ entries, entry.IsBelow) (hpairwise : entries.Pairwise fun a b => a.relative ≠ b.relative)
    (houtside : ∀ entry ∈ entries, entry.IsOutside disk p.session.roots base)
    (h : renderAll plan entries p = (p', none)) : UpToDate p'.disk out p.session entries p'.session := by
  induction entries generalizing p with
  | nil =>
    cases h
    exact .nil
  | cons entry entries ih =>
    have hagreeLast := hagree.trans (agreeOutside_renderAll hout hbase hbelow h)
    obtain ⟨next, hentry, hrest⟩ := renderAll_cons_iff.1 h
    obtain ⟨hentryBelow, hbelow⟩ := List.forall_mem_cons.1 hbelow
    obtain ⟨hentryOutside, houtside⟩ := List.forall_mem_cons.1 houtside
    obtain ⟨hne, hpairwise⟩ := List.pairwise_cons.1 hpairwise
    obtain ⟨hagreeNext, hbaseNext⟩ := agreeOutside_renderEntry hout hbase hentryBelow hentry
    obtain ⟨session, text, hrenders, hplaced⟩ := renderEntry_cases hout hentry
    have hsession : next.session = session := hplaced.session_eq
    -- the inputs are those of the first disk, at this turn and after the run
    have hrenders' : Renders p'.disk p.session entry session text :=
      (renders_congr hagreeLast hentryOutside).2 ((renders_congr hagree hentryOutside).1 hrenders)
    have hcurrent : currentText p'.disk (Path.join out entry.relative) = text := by
      obtain ⟨names, hnames, hrelative⟩ := hentryBelow
      have hnext : currentText next.disk (Path.join out entry.relative) = text := by
        rcases hplaced.current_or_written hcheck with hcurrent | hwrite
        · exact hcurrent
        · exact currentText_of_readText (Disk.readText_writeWhole hwrite)
      rw [hrelative] at hnext hne ⊢
      have hkept := readText_renderAll hout hnames hbelow (fun other hm => (hne other hm).symm) hbaseNext.walk_lead
        hrest
      rw [currentText, hkept]
      exact hnext
    have hroots : next.session.roots = p.session.roots := by rw [hsession, roots_of_renders hrenders]
    have hupToDate := ih (hagree.trans hagreeNext) hbaseNext hbelow hpairwise (by rwa [hroots]) hrest
    rw [hsession] at hupToDate
    exact .cons hrenders' hcurrent hupToDate

/-- A rendering that succeeds settles its output: if neither the path, nor the configuration, nor any place where the
file of a directive is looked for passes through the output directory, and that directory is not below the path, then a
check right after it finds every document in place. -/
theorem run_check_of_run [Backend] {write check : List Text} {diff diff' : Bool}
    (hwrite : parse write = .ok (scope, .render path (some out) false diff))
    (hcheck : parse check = .ok (scope, .render path (some out) true diff')) (hbase : disk.LeadsTo out base)
    (hover : ∀ place, disk.locate path = .ok place → ¬ place <+: base)
    (houtside : ∀ input, input = path ∨ input = configPath disk scope ∨
      Need.entry input ∈ renderNeeds disk (knownRoots disk scope) path → ¬ disk.PassesThrough input base)
    (hcode : (run disk write).code = 0) :
    ∃ entries, discover disk path = .ok entries ∧
      run (run disk write).disk check =
        ⟨0, summary true ⟨0, entries.length, 0⟩ 0, [], (run disk write).disk⟩ := by
  rw [run_eq_render hwrite] at hcode ⊢
  rw [run_eq_render hcheck]
  obtain ⟨session, entries, last, hrun⟩ := finishes_of_code hcode
  rw [hrun.render_eq] at hcode ⊢
  obtain ⟨hreport, -⟩ := code_finish_eq_zero_iff.1 hcode
  have hpath := houtside path (.inl rfl)
  have hbelow := isBelow_discover hrun.found
  have hroots : knownRoots disk scope = session.roots := by rw [knownRoots, hrun.opened]
  have hentries : ∀ entry ∈ entries, entry.IsOutside disk session.roots base :=
    isOutside_of_discover hrun.found hpath hover fun candidate hm =>
      houtside candidate (.inr (.inr (hroots ▸ hm)))
  have hagree : Disk.AgreeOutside base disk last.disk :=
    agreeOutside_renderAll (p := .start disk session) rfl hbase hbelow hrun.rendered
  have hupToDate := upToDate_of_rendered (p := .start disk session) rfl rfl (.refl base disk) hbase hbelow
    (pairwise_discover hrun.found) hentries hrun.rendered
  have hopened := (openSession_congr hagree (houtside _ (.inr (.inl rfl)))).trans hrun.opened
  have hfound := (discover_congr hagree hpath hover).trans hrun.found
  have hcurrent : Current last.disk scope path out :=
    ⟨session, entries, last.session, hopened, hfound, hupToDate, hreport⟩
  obtain ⟨-, entries', hfound', hrender⟩ := hcurrent.render_eq ⟨some out, true, diff'⟩ rfl
  rw [hfound] at hfound'
  cases hfound'
  exact ⟨entries, hrun.found, hrender⟩

theorem run_check_twoDocuments :
    twoDocuments.LeadsTo "site".toList ["site".toList] ∧ (run twoDocuments renderDocs).code = 0 ∧
      ∃ entries, discover twoDocuments "docs".toList = .ok entries ∧
        run (run twoDocuments renderDocs).disk checkDocs =
          ⟨0, summary true ⟨0, entries.length, 0⟩ 0, [], (run twoDocuments renderDocs).disk⟩ := by
  have hbase : twoDocuments.LeadsTo "site".toList ["site".toList] := ⟨by decide +kernel, by decide +kernel⟩
  have hcode : (run twoDocuments renderDocs).code = 0 := by decide +kernel
  have hdocs : twoDocuments.locate "docs".toList = .ok ["docs".toList] := by decide +kernel
  have hneeds : renderNeeds twoDocuments (knownRoots twoDocuments ⟨none, []⟩) "docs".toList =
      [.entry "docs/note.txt".toList, .entry "/note.txt".toList] := by decide +kernel
  refine ⟨hbase, hcode, run_check_of_run parse_renderDocs parse_checkDocs hbase ?_ ?_ hcode⟩
  · intro place hplace
    rw [hdocs] at hplace
    cases hplace
    decide
  · intro input hinput
    rw [hneeds] at hinput
    simp only [List.mem_cons, Need.entry.injEq, List.not_mem_nil, or_false] at hinput
    rcases hinput with rfl | rfl | rfl | rfl <;> decide +kernel

end Command

end Excerpt
