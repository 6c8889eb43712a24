import Excerpt.Proofs.Answers

/-!
# Sessions as snapshots

A session answers from a snapshot of the files: an extractor sees a file as it was when a directive first led to it
and it could be read. `Snapshot` keeps no texts, only the list of all files that directives led to, each with what
reading it gave at that time; what is remembered of a file is the first of these that is a text (`Snapshot.first?`).
`Session.Follows` relates a session to a snapshot. It holds at the start and after every event, and then the session
answers as the snapshot says (`Follows.handle`), so whole runs give the same replies (`runEvents_snapshot`).
-/

namespace Excerpt

/-- A file that a directive led an extractor to, and what reading it gave. -/
structure Load where
  extractor : Text
  path : Text
  read : Except Files.DiskError Text

/-- The text of the file, if it is the given one and could be read. -/
def Load.text? (load : Load) (extractor path : Text) : Option Text :=
  if load.extractor = extractor ∧ Path.components load.path = Path.components path then load.read.toOption else none

/-- A session with the history of its loads in place of its caches. -/
structure Snapshot where
  registry : Registry
  roots : List Text
  /-- The loads so far, in order. -/
  loads : List Load
  report : List Failure

namespace Snapshot

def new (registry : Registry) (roots : List Text) : Snapshot := ⟨registry, roots, [], []⟩

/-- The text of a file at its first load that could be read. -/
def first? (snapshot : Snapshot) (extractor path : Text) : Option Text :=
  snapshot.loads.findSome? (·.text? extractor path)

/-- The text of a file for an extractor: as it was first read, or else as it is now. -/
def textOf (disk : Files.Disk) (snapshot : Snapshot) (extractor path : Text) : Except Files.DiskError Text :=
  (snapshot.first? extractor path).elim (disk.readText path) .ok

/-- The load of the directive, which has one if its target is found and its language leads to an extractor. -/
def load? (disk : Files.Disk) (snapshot : Snapshot) (directive : Directive) (directory : Option Text) : Option Load :=
  match Target.resolve disk directive.path directory snapshot.roots, snapshot.registry.resolve? directive.language with
  | .ok path, some extractor =>
    if snapshot.registry.has extractor then some ⟨extractor, path, disk.readText path⟩ else none
  | _, _ => none

/-- The answer to a directive. The target is looked for on the disk as it is now; only an extractor sees the text of
the file as it was first read. -/
def answer [Backend] (disk : Files.Disk) (snapshot : Snapshot) (directive : Directive) (directory : Option Text) :
    Except ExtractError Excerpted :=
  match Target.resolve disk directive.path directory snapshot.roots with
  | .error e => .error e
  | .ok path =>
    let text := match snapshot.registry.resolve? directive.language with
      | none => Extractor.whole disk directive.language path directive
      | some extractor =>
        if snapshot.registry.has extractor then
          match snapshot.textOf disk extractor path with
          | .ok text => Extractor.select ⟨path, text, Extractor.indexOf text⟩ directive
          | .error e => .error (.unreadable path e)
        else .error (.unsupportedSelector directive.language directive.selector)
    text.map fun text => ⟨text, directive.language, directive.highlights⟩

/-- The snapshot after the directives were answered in order. -/
def serve (disk : Files.Disk) (directory : Option Text) (snapshot : Snapshot) (directives : List Directive) :
    Snapshot :=
  { snapshot with loads := snapshot.loads ++ directives.filterMap (snapshot.load? disk · directory) }

theorem first?_serve (disk : Files.Disk) (snapshot : Snapshot) (directive : Directive) (directory : Option Text)
    (name path : Text) :
    (snapshot.serve disk directory [directive]).first? name path =
      (snapshot.first? name path).or ((snapshot.load? disk directive directory).bind (·.text? name path)) := by
  unfold Snapshot.serve Snapshot.first?
  rw [List.findSome?_append]
  cases hl : snapshot.load? disk directive directory with
  | none => simp [hl]
  | some load => simp [hl]

def answersOf [Backend] (disk : Files.Disk) (directory : Option Text) (snapshot : Snapshot) :
    Document.Answers := fun fence =>
  match Directive.parse? fence.info with
  | none => .error (.invalidDirective fence.info, fence.infoOffset)
  | some directive =>
    (snapshot.answer disk directive directory).mapError fun e => (e, fence.infoOffset + directive.selectorOffset)

end Snapshot

/-- What can happen in the course of a session. -/
inductive Event where
  /-- Files are written and removed. -/
  | edit (root : Files.Tree)
  | extract (expression : Text) (directory : Option Text)
  | render (document markdown : Text)
  | record (failure : Failure)

inductive Reply where
  | done
  | excerpt (answer : Except ExtractError Excerpted)
  | text (t : Text)

def runEvents {σ : Type} (handle : Files.Disk → σ → Event → Files.Disk × σ × Reply) (disk : Files.Disk) (state : σ) :
    List Event → Files.Disk × σ × List Reply
  | [] => (disk, state, [])
  | event :: rest =>
    let (disk, state, reply) := handle disk state event
    let (disk, state, replies) := runEvents handle disk state rest
    (disk, state, reply :: replies)

def Session.handle [Backend] (disk : Files.Disk) (session : Session) : Event → Files.Disk × Session × Reply
  | .edit root => ({ disk with root := root }, session, .done)
  | .extract expression directory =>
    let (session, answer) := session.extractText disk expression directory
    (disk, session, .excerpt answer)
  | .render document markdown =>
    let (session, text) := Document.render disk document session markdown
    (disk, session, .text text)
  | .record failure => (disk, session.record failure, .done)

def Snapshot.handle [Backend] (disk : Files.Disk) (snapshot : Snapshot) : Event → Files.Disk × Snapshot × Reply
  | .edit root => ({ disk with root := root }, snapshot, .done)
  | .extract expression directory =>
    match Directive.parse? expression with
    | none => (disk, snapshot, .excerpt (.error (.invalidDirective expression)))
    | some directive =>
      (disk, snapshot.serve disk directory [directive], .excerpt (snapshot.answer disk directive directory))
  | .render document markdown =>
    let directory := Path.directory? document
    let blocks := Block.cut markdown.rawLines
    let answers := snapshot.answersOf disk directory
    (disk,
      { snapshot.serve disk directory (blocks.filterMap Document.directive?) with
        report := snapshot.report ++ Document.failures answers document 1 blocks },
      .text (blocks.flatMap fun block => (Document.rewritten answers block).lines).flatten)
  | .record failure => (disk, { snapshot with report := snapshot.report ++ [failure] }, .done)

namespace Session
variable [Backend] {disk : Files.Disk} {session : Session} {snapshot : Snapshot}

/-- The session has the registry, the roots and the report of the snapshot, makes extractors only for names that the
registry has, and remembers of every file the text of its first load. -/
structure Follows (session : Session) (snapshot : Snapshot) : Prop where
  registry : session.registry = snapshot.registry
  roots : session.roots = snapshot.roots
  report : session.report = snapshot.report
  serves : ∀ name, session.serves name = snapshot.registry.has name
  remembered : ∀ name path, (session.remembered? name path).map IndexedSource.content =
    (snapshot.first? name path).map fun text => (text, Extractor.indexOf text)

namespace Follows

theorem new (registry : Registry) (roots : List Text) :
    Follows (Session.new registry roots) (Snapshot.new registry roots) where
  registry := rfl
  roots := rfl
  report := rfl
  serves name := by
    show (registry.create? name).isSome = registry.has name
    unfold Registry.create?
    split <;> simp_all
  remembered _ _ := rfl

theorem sight (h : Follows session snapshot) (disk : Files.Disk) (name path : Text) :
    (session.sight disk name path).map IndexedSource.content =
      match snapshot.textOf disk name path with
      | .ok text => .ok (text, Extractor.indexOf text)
      | .error e => .error (.unreadable path e) := by
  have hr := h.remembered name path
  unfold Session.sight Snapshot.textOf
  cases hs : session.remembered? name path <;> cases hf : snapshot.first? name path <;> rw [hs, hf] at hr
  · rw [Option.elim_none, Option.elim_none, Extractor.load]
    cases disk.readText path <;> rfl
  · cases hr
  · cases hr
  · exact congrArg Except.ok (Option.some.inj hr)

theorem extractFrom_answer (h : Follows session snapshot) (disk : Files.Disk) (directive : Directive) (path : Text) :
    (session.extractFrom disk directive path).2 =
      match snapshot.registry.resolve? directive.language with
      | none => Extractor.whole disk directive.language path directive
      | some extractor =>
        if snapshot.registry.has extractor then
          match snapshot.textOf disk extractor path with
          | .ok text => Extractor.select ⟨path, text, Extractor.indexOf text⟩ directive
          | .error e => .error (.unreadable path e)
        else .error (.unsupportedSelector directive.language directive.selector) := by
  rw [← h.registry]
  cases hr : session.registry.resolve? directive.language with
  | none => rw [extractFrom_plain hr]
  | some name =>
    have hserves := h.serves name
    simp only [h.registry, ← hserves]
    cases hs : session.serves name with
    | false => rw [extractFrom_unserved hr hs]; rfl
    | true =>
      rw [Session.extractFrom_answer hr hs]
      have hsight := h.sight disk name path
      cases ht : snapshot.textOf disk name path <;> cases hc : session.sight disk name path <;>
        simp only [ht, hc, Except.map, Except.error.injEq, Except.ok.injEq, reduceCtorEq] at hsight
      · rw [hsight]; rfl
      · exact Extractor.select_eq_of_content hsight directive

theorem extract_answer (h : Follows session snapshot) (disk : Files.Disk) (directive : Directive)
    (directory : Option Text) :
    (session.extract disk directive directory).2 = snapshot.answer disk directive directory := by
  unfold Session.extract Snapshot.answer
  rw [h.roots]
  cases Target.resolve disk directive.path directory snapshot.roots with
  | error e => rfl
  | ok path => exact congrArg (Except.map _) (h.extractFrom_answer disk directive path)

theorem remembered_extract (h : Follows session snapshot) (disk : Files.Disk) (directive : Directive)
    (directory : Option Text) (name path : Text) :
    ((session.extract disk directive directory).1.remembered? name path).map IndexedSource.content =
      ((snapshot.serve disk directory [directive]).first? name path).map fun text =>
        (text, Extractor.indexOf text) := by
  rw [Snapshot.first?_serve]
  unfold Session.extract Snapshot.load?
  rw [h.roots, ← h.registry]
  cases Target.resolve disk directive.path directory snapshot.roots with
  | error e => simpa using h.remembered name path
  | ok found =>
    cases hr : session.registry.resolve? directive.language with
    | none => simpa [extractFrom_plain hr] using h.remembered name path
    | some extractor =>
      have hserves := h.serves extractor
      simp only [h.registry, ← hserves]
      cases hs : session.serves extractor with
      | false => simpa [extractFrom_unserved hr hs] using h.remembered name path
      | true =>
        -- only the file that was found can be new, and only if no text of it is remembered
        rw [remembered?_extractFrom hr hs]
        simp only [if_true, Option.bind_some, Load.text?]
        by_cases hc : name = extractor ∧ Path.components path = Path.components found
        · rw [if_pos hc, if_pos ⟨hc.1.symm, hc.2.symm⟩, Option.map_or, Option.map_or, h.remembered,
            Extractor.load_content]
        · rw [if_neg hc, if_neg fun hc' => hc ⟨hc'.1.symm, hc'.2.symm⟩, Option.or_none, h.remembered]

theorem extract (h : Follows session snapshot) (disk : Files.Disk) (directive : Directive)
    (directory : Option Text) :
    Follows (session.extract disk directive directory).1 (snapshot.serve disk directory [directive]) where
  registry := (agrees_extract disk session directive directory).registry.trans h.registry
  roots := (agrees_extract disk session directive directory).roots.trans h.roots
  report := (report_extract disk directory session directive).trans h.report
  serves name := ((agrees_extract disk session directive directory).serves name).trans (h.serves name)
  remembered := h.remembered_extract disk directive directory

theorem serve (h : Follows session snapshot) (disk : Files.Disk) (directory : Option Text)
    (directives : List Directive) :
    Follows (session.serve disk directory directives) (snapshot.serve disk directory directives) := by
  induction directives generalizing session snapshot with
  | nil => simpa [Session.serve, Snapshot.serve] using h
  | cons directive rest ih =>
    -- the loads of the others depend on the registry and the roots, which stay
    have hloads : snapshot.loads ++ (directive :: rest).filterMap (snapshot.load? disk · directory) =
        snapshot.loads ++ [directive].filterMap (snapshot.load? disk · directory) ++
          rest.filterMap (snapshot.load? disk · directory) := by
      rw [List.append_assoc, ← List.filterMap_append, List.singleton_append]
    have hserve : snapshot.serve disk directory (directive :: rest) =
        (snapshot.serve disk directory [directive]).serve disk directory rest :=
      congrArg (fun loads => { snapshot with loads := loads }) hloads
    rw [hserve]
    exact ih (h.extract disk directive directory)

theorem withReport (h : Follows session snapshot) (report : List Failure) :
    Follows { session with report := report } { snapshot with report := report } :=
  ⟨h.registry, h.roots, rfl, h.serves, h.remembered⟩

theorem answersOf_eq (h : Follows session snapshot) (disk : Files.Disk) (directory : Option Text) :
    Document.answersOf disk directory session = snapshot.answersOf disk directory := by
  funext fence
  unfold Document.answersOf Document.excerptOf Snapshot.answersOf
  cases Directive.parse? fence.info with
  | none => rfl
  | some directive => exact congrArg (Except.mapError _) (h.extract_answer disk directive directory)

/-- An event keeps session and snapshot together and gives the same reply from both. -/
theorem handle (h : Follows session snapshot) (disk : Files.Disk) (event : Event) :
    (session.handle disk event).1 = (snapshot.handle disk event).1 ∧
      Follows (session.handle disk event).2.1 (snapshot.handle disk event).2.1 ∧
      (session.handle disk event).2.2 = (snapshot.handle disk event).2.2 := by
  cases event with
  | edit root => exact ⟨rfl, h, rfl⟩
  | extract expression directory =>
    simp only [Session.handle, Snapshot.handle, extractText]
    cases Directive.parse? expression with
    | none => exact ⟨rfl, h, rfl⟩
    | some directive =>
      have hanswer := h.extract_answer disk directive directory
      exact ⟨rfl, h.extract disk directive directory, congrArg Reply.excerpt hanswer⟩
  | render document markdown =>
    simp only [Session.handle, Snapshot.handle, Document.render_eq, h.answersOf_eq, h.report, true_and, and_true]
    exact (h.serve disk _ _).withReport _
  | record failure =>
    refine ⟨rfl, ?_, rfl⟩
    show Follows { session with report := session.report ++ [failure] } _
    rw [h.report]
    exact h.withReport _

theorem runEvents (h : Follows session snapshot) (disk : Files.Disk) (events : List Event) :
    (runEvents Session.handle disk session events).1 = (runEvents Snapshot.handle disk snapshot events).1 ∧
      Follows (runEvents Session.handle disk session events).2.1 (runEvents Snapshot.handle disk snapshot events).2.1 ∧
      (runEvents Session.handle disk session events).2.2 = (runEvents Snapshot.handle disk snapshot events).2.2 := by
  induction events generalizing disk session snapshot with
  | nil => exact ⟨rfl, h, rfl⟩
  | cons event rest ih =>
    obtain ⟨hdisk, hstep, hreply⟩ := h.handle disk event
    obtain ⟨hdisk', hrest, hreplies⟩ := ih hstep (session.handle disk event).1
    simp only [Excerpt.runEvents, ← hdisk, hreply]
    exact ⟨hdisk', hrest, by rw [hreplies]⟩

end Follows

/-- In any run from the start of a session, with files changing in between, the session replies and reports as its
snapshot does, and remembers of every file the text of its first load that could be read. An extraction adds its own
load to these, whatever its answer is; so it never changes a text that is remembered. As long as the disk then stays
the same, the answer to a directive does not depend on the directives that are served before it. -/
theorem runEvents_snapshot (registry : Registry) (roots : List Text) (disk : Files.Disk) (events : List Event) :
    ∃ disk' session snapshot replies,
      Excerpt.runEvents Session.handle disk (Session.new registry roots) events = (disk', session, replies) ∧
      Excerpt.runEvents Snapshot.handle disk (Snapshot.new registry roots) events = (disk', snapshot, replies) ∧
      session.report = snapshot.report ∧
      (∀ name path, (session.remembered? name path).map IndexedSource.source = snapshot.first? name path) ∧
      ∀ directive directory,
        (session.extract disk' directive directory).2 = snapshot.answer disk' directive directory ∧
        (∀ name path, ((session.extract disk' directive directory).1.remembered? name path).map IndexedSource.source =
          (snapshot.first? name path).or ((snapshot.load? disk' directive directory).bind (·.text? name path))) ∧
        ∀ directives directory', ((session.serve disk' directory' directives).extract disk' directive directory).2 =
          (session.extract disk' directive directory).2 := by
  obtain ⟨hdisk, h, hreplies⟩ := (Follows.new registry roots).runEvents disk events
  have hsource : ∀ {indexed : Option IndexedSource} {text : Option Text},
      indexed.map IndexedSource.content = text.map (fun text => (text, Extractor.indexOf text)) →
        indexed.map IndexedSource.source = text := fun hc => by
    simpa [Option.map_map, Function.comp_def, IndexedSource.content] using congrArg (Option.map Prod.fst) hc
  refine ⟨_, _, _, _, rfl, Prod.ext hdisk.symm (Prod.ext rfl hreplies.symm), h.report, fun name path =>
    hsource (h.remembered name path), fun directive directory => ⟨h.extract_answer _ directive directory,
      fun name path => ?_, fun directives directory' => ?_⟩⟩
  · rw [← Snapshot.first?_serve]
    exact hsource (h.remembered_extract _ directive directory name path)
  · exact (agrees_serve _ directory' _ directives).extract_eq directive directory

end Session

end Excerpt
