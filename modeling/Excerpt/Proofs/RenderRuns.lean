import Excerpt.Command.Run

/-!
# Rendering into a directory, document by document

Rendering one document either finds its text in place, or reports it as stale, or writes it (`Placed`), and counts it
once at most (`total_renderAll_le`). A run in which every document is found in place changes nothing, whatever the plan
(`renderAll_of_upToDate`), and a run that reports and writes nothing is such a run (`upToDate_of_renderAll`).
-/

namespace Excerpt

namespace Command
open Files
variable {disk : Disk} {scope : Scope} {plan : Plan} {path out target text : Text} {entry : Entry}
  {entries before after : List Entry} {p p' p'' : Progression} {session session' : Session}

/-! ### Rendered texts -/

/-- What is done with a rendered text, if there is no fault. -/
inductive Placed (plan : Plan) (target text : Text) (p p' : Progression) : Prop where
  | same (current : currentText p.disk target = text)
      (eq : p' = { p with tally := { p.tally with unchanged := p.tally.unchanged + 1 } })
  | stale (check : plan.check = true) (disk : p'.disk = p.disk) (session : p'.session = p.session)
      (tally : p'.tally = { p.tally with stale := p.tally.stale + 1 })
  | written (check : plan.check = false) (current : currentText p.disk target ≠ text)
      (disk : p.disk.writeWhole target text = (p'.disk, .ok ())) (session : p'.session = p.session)
      (tally : p'.tally = { p.tally with written := p.tally.written + 1 })

theorem placed_of_place (h : place plan target text p = (p', none)) : Placed plan target text p p' := by
  simp only [place] at h
  split at h
  next hcurrent =>
    cases h
    exact .same hcurrent rfl
  next hcurrent =>
    split at h
    next hcheck =>
      cases h
      refine .stale hcheck ?_ ?_ ?_ <;> cases plan.diff <;> rfl
    next hcheck =>
      have hdisk : (if plan.diff = true then
          { p with stdout := p.stdout ++ diffText target (currentText p.disk target) text }
        else p).disk = p.disk := by cases plan.diff <;> rfl
      rw [hdisk] at h
      split at h
      next => cases h
      next disk hwrite =>
        cases h
        refine .written (by simpa using hcheck) hcurrent hwrite ?_ ?_ <;> cases plan.diff <;> rfl

theorem Placed.disk_cases (h : Placed plan target text p p') :
    p'.disk = p.disk ∨ p.disk.writeWhole target text = (p'.disk, .ok ()) := by
  rcases h with ⟨-, rfl⟩ | ⟨-, hdisk, -, -⟩ | ⟨-, -, hwrite, -, -⟩
  · exact .inl rfl
  · exact .inl hdisk
  · exact .inr hwrite

theorem Placed.session_eq (h : Placed plan target text p p') : p'.session = p.session := by
  rcases h with ⟨-, rfl⟩ | ⟨-, -, hsession, -⟩ | ⟨-, -, -, hsession, -⟩
  · rfl
  · exact hsession
  · exact hsession

theorem Placed.current_or_written (h : Placed plan target text p p') (hcheck : plan.check = false) :
    currentText p'.disk target = text ∨ p.disk.writeWhole target text = (p'.disk, .ok ()) := by
  rcases h with ⟨hcurrent, rfl⟩ | ⟨hcheck', -, -, -⟩ | ⟨-, -, hwrite, -, -⟩
  · exact .inl hcurrent
  · rw [hcheck] at hcheck'
    cases hcheck'
  · exact .inr hwrite

theorem place_of_current (plan : Plan) (h : currentText p.disk target = text) :
    place plan target text p = ({ p with tally := { p.tally with unchanged := p.tally.unchanged + 1 } }, none) :=
  if_pos h

theorem disk_place (h : plan.check = true) : (place plan target text p).1.disk = p.disk := by
  simp only [place, h, if_true]
  split
  · rfl
  · cases plan.diff <;> rfl

/-- No count falls; a check writes nothing, and only a check finds anything stale. -/
structure Tally.Advances (check : Bool) (t t' : Tally) : Prop where
  written : t.written ≤ t'.written
  stale : t.stale ≤ t'.stale
  written_eq : check = true → t'.written = t.written
  stale_eq : check = false → t'.stale = t.stale

theorem Tally.Advances.trans {check : Bool} {t t' t'' : Tally} (h : Advances check t t') (h' : Advances check t' t'') :
    Advances check t t'' where
  written := Nat.le_trans h.written h'.written
  stale := Nat.le_trans h.stale h'.stale
  written_eq hcheck := (h'.written_eq hcheck).trans (h.written_eq hcheck)
  stale_eq hcheck := (h'.stale_eq hcheck).trans (h.stale_eq hcheck)

theorem Placed.advances (h : Placed plan target text p p') : p.tally.Advances plan.check p'.tally := by
  rcases h with ⟨-, rfl⟩ | ⟨hcheck, -, -, htally⟩ | ⟨hcheck, -, -, -, htally⟩
  · exact ⟨Nat.le_refl _, Nat.le_refl _, fun _ => rfl, fun _ => rfl⟩
  · rw [htally, hcheck]
    exact ⟨Nat.le_refl _, Nat.le_succ _, fun _ => rfl, (nomatch ·)⟩
  · rw [htally, hcheck]
    exact ⟨Nat.le_succ _, Nat.le_refl _, (nomatch ·), fun _ => rfl⟩

/-- How many documents were counted. -/
def Tally.total (t : Tally) : Nat := t.written + t.unchanged + t.stale

theorem total_place_le : (place plan target text p).1.tally.total ≤ p.tally.total + 1 := by
  have hshown : (if plan.diff then { p with stdout := p.stdout ++ diffText target (currentText p.disk target) text }
      else p).tally = p.tally := by cases plan.diff <;> rfl
  simp only [place, hshown]
  split
  · dsimp only [Tally.total]
    omega
  · split
    · dsimp only [Tally.total]
      omega
    · split
      · exact Nat.le_succ _
      · dsimp only [Tally.total]
        omega

theorem code_finish_eq_zero_iff : (finish plan p).code = 0 ↔ p.session.report = [] ∧ p.tally.stale = 0 := by
  simp [finish]

/-! ### Documents -/

variable [Backend]

/-- The document is read, and the text is what it is rendered to. -/
def Renders (disk : Disk) (session : Session) (entry : Entry) (session' : Session) (text : Text) : Prop :=
  ∃ markdown, disk.readText entry.document = .ok markdown ∧
    Document.render disk entry.document session markdown = (session', text)

theorem renderEntry_cases (hout : plan.out = some out) (h : renderEntry plan entry p = (p', none)) :
    ∃ session text, Renders p.disk p.session entry session text ∧
      Placed plan (Path.join out entry.relative) text { p with session } p' := by
  unfold renderEntry at h
  split at h
  next => cases h
  next markdown hread =>
    simp only [hout] at h
    exact ⟨_, _, ⟨markdown, hread, rfl⟩, placed_of_place h⟩

theorem renderEntry_of_renders (hout : plan.out = some out) (h : Renders p.disk p.session entry session text) :
    renderEntry plan entry p = place plan (Path.join out entry.relative) text { p with session } := by
  obtain ⟨markdown, hread, hrender⟩ := h
  rw [renderEntry, hread]
  simp only [hrender, hout]

theorem renderAll_cons_iff :
    renderAll plan (entry :: entries) p = (p'', none) ↔
      ∃ p', renderEntry plan entry p = (p', none) ∧ renderAll plan entries p' = (p'', none) := by
  rw [renderAll]
  rcases renderEntry plan entry p with ⟨p', _ | fault⟩ <;> simp

theorem renderAll_append_iff :
    renderAll plan (before ++ after) p = (p'', none) ↔
      ∃ p', renderAll plan before p = (p', none) ∧ renderAll plan after p' = (p'', none) := by
  induction before generalizing p with
  | nil => simp [renderAll]
  | cons entry before ih =>
    simp only [List.cons_append, renderAll_cons_iff, ih]
    constructor
    · rintro ⟨next, hentry, p', hbefore, hafter⟩
      exact ⟨p', ⟨next, hentry, hbefore⟩, hafter⟩
    · rintro ⟨p', ⟨next, hentry, hbefore⟩, hafter⟩
      exact ⟨next, hentry, p', hbefore, hafter⟩

/-! ### Tallies -/

theorem advances_renderAll (hout : plan.out = some out) (h : renderAll plan entries p = (p', none)) :
    p.tally.Advances plan.check p'.tally := by
  induction entries generalizing p with
  | nil =>
    cases h
    exact ⟨Nat.le_refl _, Nat.le_refl _, fun _ => rfl, fun _ => rfl⟩
  | cons entry entries ih =>
    obtain ⟨next, hentry, hrest⟩ := renderAll_cons_iff.1 h
    obtain ⟨session, text, -, hplaced⟩ := renderEntry_cases hout hentry
    exact hplaced.advances.trans (ih hrest)

theorem total_renderEntry_le : (renderEntry plan entry p).1.tally.total ≤ p.tally.total + 1 := by
  unfold renderEntry
  split
  · exact Nat.le_succ _
  · dsimp only
    split
    · exact total_place_le
    · exact Nat.le_succ _

/-- Every document is counted once at most, also in a run that stops at a fault. -/
theorem total_renderAll_le : (renderAll plan entries p).1.tally.total ≤ p.tally.total + entries.length := by
  induction entries generalizing p with
  | nil => exact Nat.le_refl _
  | cons entry entries ih =>
    have hentry : (renderEntry plan entry p).1.tally.total ≤ p.tally.total + 1 := total_renderEntry_le
    rw [renderAll, List.length_cons]
    split
    next next fault hnext =>
      rw [hnext] at hentry
      have hentry : next.tally.total ≤ p.tally.total + 1 := hentry
      exact Nat.le_trans hentry (by omega)
    next next hnext =>
      rw [hnext] at hentry
      have hentry : next.tally.total ≤ p.tally.total + 1 := hentry
      exact Nat.le_trans ih (by omega)

/-! ### Runs that find everything in place -/

/-- The text of every document is in place. -/
inductive UpToDate (disk : Disk) (out : Text) : Session → List Entry → Session → Prop where
  | nil {session : Session} : UpToDate disk out session [] session
  | cons {session next last : Session} {entry : Entry} {entries : List Entry} {text : Text}
      (renders : Renders disk session entry next text)
      (current : currentText disk (Path.join out entry.relative) = text)
      (rest : UpToDate disk out next entries last) :
      UpToDate disk out session (entry :: entries) last

theorem renderAll_of_upToDate (hout : plan.out = some out) (h : UpToDate p.disk out p.session entries session) :
    renderAll plan entries p =
      ({ p with session, tally := { p.tally with unchanged := p.tally.unchanged + entries.length } }, none) := by
  induction entries generalizing p with
  | nil =>
    cases h
    rfl
  | cons entry entries ih =>
    rcases h with _ | @⟨_, next, _, _, _, _, hrenders, hcurrent, hrest⟩
    have hplace := place_of_current plan (p := { p with session := next }) hcurrent
    rw [renderAll, renderEntry_of_renders hout hrenders, hplace]
    simp only
    rw [ih hrest, List.length_cons, Nat.add_right_comm, Nat.add_assoc]

theorem upToDate_of_renderAll (hout : plan.out = some out) (h : renderAll plan entries p = (p', none))
    (hwritten : p'.tally.written = p.tally.written) (hstale : p'.tally.stale = p.tally.stale) :
    UpToDate p.disk out p.session entries p'.session := by
  induction entries generalizing p with
  | nil =>
    cases h
    exact .nil
  | cons entry entries ih =>
    obtain ⟨next, hentry, hrest⟩ := renderAll_cons_iff.1 h
    obtain ⟨session, text, hrenders, hplaced⟩ := renderEntry_cases hout hentry
    obtain ⟨hwritten', hstale', -, -⟩ := advances_renderAll hout hrest
    rcases hplaced with ⟨hcurrent, rfl⟩ | ⟨-, -, -, htally⟩ | ⟨-, -, -, -, htally⟩
    · exact .cons hrenders hcurrent (ih hrest hwritten hstale)
    · rw [htally, hstale] at hstale'
      exact absurd hstale' (Nat.not_succ_le_self _)
    · rw [htally, hwritten] at hwritten'
      exact absurd hwritten' (Nat.not_succ_le_self _)

/-! ### The disk of a check -/

theorem disk_renderEntry (h : plan.check = true) : (renderEntry plan entry p).1.disk = p.disk := by
  unfold renderEntry
  split
  · rfl
  · dsimp only
    split
    · exact disk_place h
    · rfl

theorem disk_renderAll (h : plan.check = true) : (renderAll plan entries p).1.disk = p.disk := by
  induction entries generalizing p with
  | nil => rfl
  | cons entry entries ih =>
    have hentry : (renderEntry plan entry p).1.disk = p.disk := disk_renderEntry h
    rw [renderAll]
    split
    next next fault hnext => rwa [hnext] at hentry
    next next hnext => rw [ih, ← hentry, hnext]

/-! ### Whole runs -/

/-- The counts of a run do not overflow numbers of 32 bits, if the number of documents is one. -/
theorem toInt_tally_renderAll (plan : Plan) (disk : Disk) (session : Session)
    (h : (entries.length : Int) ≤ Int32.maxValue.toInt) :
    let tally := (renderAll plan entries (.start disk session)).1.tally
    ∀ count ∈ [tally.written, tally.unchanged, tally.stale], (Int32.ofNat count).toInt = count := by
  intro tally count hcount
  have hmax : Int32.maxValue.toInt = 2147483647 := rfl
  have htotal : tally.total ≤ 0 + entries.length := total_renderAll_le
  have hle : count ≤ tally.total := by
    simp only [List.mem_cons, List.not_mem_nil, or_false] at hcount
    unfold Tally.total
    omega
  exact Int32.toInt_ofNat_of_lt (by omega)

/-- A run that renders all documents that it finds, without a fault, up to its summary. -/
structure Finishes (disk : Disk) (scope : Scope) (path : Text) (plan : Plan) (session : Session) (entries : List Entry)
    (last : Progression) : Prop where
  opened : openSession disk scope = .ok session
  found : discover disk path = .ok entries
  rendered : renderAll plan entries (.start disk session) = (last, none)

theorem Finishes.render_eq {last : Progression} (h : Finishes disk scope path plan session entries last) :
    render disk scope path plan = finish plan last := by
  rw [render, h.opened, h.found]
  simp only [h.rendered]

theorem render_cases (disk : Disk) (scope : Scope) (path : Text) (plan : Plan) :
    (∃ session entries last, Finishes disk scope path plan session entries last) ∨
      (render disk scope path plan).code = 1 := by
  unfold render
  split
  next => exact .inr rfl
  next session hopened =>
    split
    next => exact .inr rfl
    next entries hfound =>
      split
      next => exact .inr rfl
      next last hrendered => exact .inl ⟨session, entries, last, hopened, hfound, hrendered⟩

theorem finishes_of_code (hcode : (render disk scope path plan).code = 0) :
    ∃ session entries last, Finishes disk scope path plan session entries last := by
  rcases render_cases disk scope path plan with hrun | hone
  · exact hrun
  · rw [hcode] at hone
    cases hone

theorem exists_finishes (hopened : openSession disk scope = .ok session) (hfound : discover disk path = .ok entries)
    (hcode : (render disk scope path plan).code = 0) :
    ∃ last, Finishes disk scope path plan session entries last := by
  obtain ⟨session', entries', last, hrun⟩ := finishes_of_code hcode
  have hsession := hopened.symm.trans hrun.opened
  have hentries := hfound.symm.trans hrun.found
  cases hsession
  cases hentries
  exact ⟨last, hrun⟩

theorem disk_render_of_check (h : plan.check = true) : (render disk scope path plan).disk = disk := by
  unfold render
  split
  · rfl
  · split
    · rfl
    next session _ _ entries _ =>
      have hdisk : (renderAll plan entries (.start disk session)).1.disk = disk := disk_renderAll h
      split
      next last fault hlast => rwa [hlast] at hdisk
      next last hlast =>
        rw [hlast] at hdisk
        exact hdisk

theorem run_eq_render {arguments : List Text} {check diff : Bool} {out : Option Text}
    (h : parse arguments = .ok (scope, .render path out check diff)) :
    run disk arguments = render disk scope path ⟨out, check, diff⟩ := by
  rw [run, h]
  rfl

/-- The number of output files that are written. -/
def written (disk : Disk) (scope : Scope) (path : Text) (plan : Plan) : Nat :=
  match openSession disk scope, discover disk path with
  | .ok session, .ok entries => (renderAll plan entries (.start disk session)).1.tally.written
  | _, _ => 0

theorem Finishes.written_eq {last : Progression} (h : Finishes disk scope path plan session entries last) :
    written disk scope path plan = last.tally.written := by
  rw [written, h.opened, h.found]
  simp only [h.rendered]

/-- Every text is in place, and no directive fails. -/
def Current (disk : Disk) (scope : Scope) (path out : Text) : Prop :=
  ∃ session entries last, openSession disk scope = .ok session ∧ discover disk path = .ok entries ∧
    UpToDate disk out session entries last ∧ last.report = []

/-- A run that finds everything in place does nothing but count. -/
theorem Current.render_eq (h : Current disk scope path out) (plan : Plan) (hout : plan.out = some out) :
    written disk scope path plan = 0 ∧ ∃ entries, discover disk path = .ok entries ∧
      render disk scope path plan = ⟨0, summary plan.check ⟨0, entries.length, 0⟩ 0, [], disk⟩ := by
  obtain ⟨session, entries, last, hopened, hfound, hupToDate, hreport⟩ := h
  have hrendered : renderAll plan entries (.start disk session) =
      (⟨disk, last, [], [], ⟨0, 0 + entries.length, 0⟩⟩, none) :=
    renderAll_of_upToDate (p := .start disk session) hout hupToDate
  have hrun : Finishes disk scope path plan session entries _ := ⟨hopened, hfound, hrendered⟩
  rw [hrun.written_eq, hrun.render_eq]
  refine ⟨rfl, entries, hfound, ?_⟩
  simp [finish, hreport, hout]

theorem current_of_finishes {last : Progression} (h : Finishes disk scope path plan session entries last)
    (hout : plan.out = some out) (hwritten : last.tally.written = 0) (hcode : (finish plan last).code = 0) :
    Current disk scope path out := by
  obtain ⟨hreport, hstale⟩ := code_finish_eq_zero_iff.1 hcode
  exact ⟨session, entries, last.session, h.opened, h.found, upToDate_of_renderAll hout h.rendered hwritten hstale,
    hreport⟩

/-- A run succeeds and writes nothing just if there is nothing to do. -/
theorem code_and_written_eq_zero_iff (hout : plan.out = some out) :
    (render disk scope path plan).code = 0 ∧ written disk scope path plan = 0 ↔ Current disk scope path out := by
  constructor
  · rintro ⟨hcode, hwritten⟩
    obtain ⟨session, entries, last, hrun⟩ := finishes_of_code hcode
    rw [hrun.written_eq] at hwritten
    rw [hrun.render_eq] at hcode
    exact current_of_finishes hrun hout hwritten hcode
  · intro h
    obtain ⟨hwritten, entries, -, hrender⟩ := h.render_eq plan hout
    exact ⟨by rw [hrender], hwritten⟩

theorem code_check_iff (h : plan.check = true) (hout : plan.out = some out) :
    (render disk scope path plan).code = 0 ↔ Current disk scope path out := by
  rw [← code_and_written_eq_zero_iff hout]
  refine ⟨fun hcode => ⟨hcode, ?_⟩, And.left⟩
  obtain ⟨session, entries, last, hrun⟩ := finishes_of_code hcode
  rw [hrun.written_eq]
  exact (advances_renderAll hout hrun.rendered).written_eq h

end Command

end Excerpt
