import Excerpt.Proofs.FoundPath
import Excerpt.Session

/-!
# What a session remembers

`Session.remembered?` is what a session remembers of a file. An extraction adds to it at most the file that it reads
(`remembered?_extractFrom`), and its answer depends on the session only through what is remembered. So as long as the
disk stays the same, no extraction changes the answer to another one: `Session.Agrees` relates sessions that answer
alike, each extraction leads to a session that agrees with the one before (`agrees_extract`), and sessions that agree
give the same answers (`Agrees.extract_eq`).
-/

namespace Excerpt

namespace Cache
variable {ε : Type} {build : Text → Except ε IndexedSource}

theorem get?_fetch (cache : Cache) (path p : Text) :
    (cache.fetch path build).1.get? p =
      if Path.components p = Path.components path then (cache.get? p).or (build path).toOption else cache.get? p := by
  unfold fetch
  split
  next entry h =>
    split
    next hc =>
      have hp : cache.get? p = some entry := by rw [← h, get?, get?, hc]
      rw [hp, Option.some_or]
    next => rfl
  next h =>
    split
    next entry hb =>
      rw [hb]
      split
      next hc =>
        have hp : cache.get? p = none := by rw [← h, get?, get?, hc]
        rw [hp, get?, List.lookup_cons, hc]
        simp [Except.toOption]
      next hc => rw [get?, List.lookup_cons, beq_false_of_ne hc, get?]
    next e hb => rw [hb]; simp [Except.toOption]

theorem result_fetch (cache : Cache) (path : Text) :
    (cache.fetch path build).2.result = (cache.get? path).elim (build path) .ok := by
  unfold fetch
  split
  next entry h => rw [h]; rfl
  next h =>
    rw [h]
    split
    next entry hb => rw [Option.elim_none, hb]; rfl
    next e hb => rw [Option.elim_none, hb]; rfl

end Cache

namespace Session
variable {disk : Files.Disk} {session : Session} {directive : Directive} {name path : Text}

/-- What the session remembers of a file for an extractor. -/
def remembered? (session : Session) (name path : Text) : Option IndexedSource :=
  (session.cache? name).bind (·.get? path)

/-- Whether there is an extractor of that name, or one can be made. -/
def serves (session : Session) (name : Text) : Bool :=
  (session.cache? name).isSome || (session.registry.create? name).isSome

theorem cache?_insert (caches : List (Text × Cache)) (name n : Text) (cache : Cache) :
    cache? { session with caches := Table.insert name cache caches } n =
      if n = name then some cache else caches.lookup n := by
  split
  next h => rw [h]; exact Table.lookup_insert_self caches
  next h => exact Table.lookup_insert_of_ne h caches

variable [Backend]

/-- The file as an extractor sees it: as it is remembered, or else as it is on the disk. -/
def sight (disk : Files.Disk) (session : Session) (name path : Text) : Except ExtractError IndexedSource :=
  (session.remembered? name path).elim (Extractor.load disk path) .ok

theorem extractFrom_plain (h : session.registry.resolve? directive.language = none) (path : Text) :
    session.extractFrom disk directive path = (session, Extractor.whole disk directive.language path directive) := by
  rw [extractFrom, h]

theorem extractFrom_unserved (h : session.registry.resolve? directive.language = some name)
    (hs : session.serves name = false) (path : Text) :
    session.extractFrom disk directive path =
      (session, .error (.unsupportedSelector directive.language directive.selector)) := by
  simp only [serves, Bool.or_eq_false_iff, Option.isSome_eq_false_iff, Option.isNone_iff_eq_none] at hs
  simp [extractFrom, h, hs.1, hs.2]

theorem extractFrom_served (disk : Files.Disk) (h : session.registry.resolve? directive.language = some name)
    (hs : session.serves name = true) (path : Text) :
    ∃ cache : Cache, (∀ p, cache.get? p = session.remembered? name p) ∧
      session.extractFrom disk directive path =
        ({ session with caches := Table.insert name (Extractor.member disk cache path directive).1 session.caches },
          (Extractor.member disk cache path directive).2) := by
  cases hc : session.cache? name with
  | some cache => exact ⟨cache, fun p => by simp [remembered?, hc], by simp [extractFrom, h, hc]⟩
  | none =>
    obtain ⟨language, hl⟩ : ∃ language, session.registry.create? name = some language := by
      simpa [serves, hc, Option.isSome_iff_exists] using hs
    exact ⟨Cache.empty, fun p => by simp [remembered?, hc, Cache.get?, Cache.empty], by simp [extractFrom, h, hc, hl]⟩

/-- Only an extractor changes the session. -/
theorem extractFrom_fst_cases (disk : Files.Disk) (session : Session) (directive : Directive) (path : Text) :
    (session.extractFrom disk directive path).1 = session ∨
      ∃ name, session.registry.resolve? directive.language = some name ∧ session.serves name = true := by
  cases h : session.registry.resolve? directive.language with
  | none => exact .inl (by rw [extractFrom_plain h])
  | some name =>
    cases hs : session.serves name with
    | false => exact .inl (by rw [extractFrom_unserved h hs])
    | true => exact .inr ⟨name, rfl, hs⟩

theorem extractFrom_fst (path : Text) :
    (session.extractFrom disk directive path).1 =
      { session with caches := (session.extractFrom disk directive path).1.caches } := by
  rcases extractFrom_fst_cases disk session directive path with h | ⟨name, hr, hs⟩
  · rw [h]
  · obtain ⟨cache, -, he⟩ := extractFrom_served disk hr hs path
    rw [he]

/-- An extraction with an extractor remembers the file if it can be read and was not remembered, whether or not it
finds what is asked for, and nothing else changes. -/
theorem remembered?_extractFrom (h : session.registry.resolve? directive.language = some name)
    (hs : session.serves name = true) (path n p : Text) :
    (session.extractFrom disk directive path).1.remembered? n p =
      if n = name ∧ Path.components p = Path.components path then
        (session.remembered? n p).or (Extractor.load disk path).toOption
      else session.remembered? n p := by
  obtain ⟨cache, hcache, he⟩ := extractFrom_served disk h hs path
  have hmember : (Extractor.member disk cache path directive).1 = (cache.fetch path (Extractor.load disk)).1 := rfl
  rw [he, remembered?, cache?_insert]
  by_cases hn : n = name
  · subst hn
    rw [if_pos rfl, hmember, Option.bind_some, Cache.get?_fetch, hcache]
    simp
  · rw [if_neg hn, if_neg fun h => hn h.1]
    rfl

theorem serves_extractFrom (n : Text) : (session.extractFrom disk directive path).1.serves n = session.serves n := by
  rcases extractFrom_fst_cases disk session directive path with h | ⟨name, hr, hs⟩
  · rw [h]
  · obtain ⟨cache, -, he⟩ := extractFrom_served disk hr hs path
    rw [he, serves, cache?_insert]
    by_cases hn : n = name
    · rw [if_pos hn, hn, hs]; rfl
    · rw [if_neg hn]; rfl

theorem extractFrom_answer (h : session.registry.resolve? directive.language = some name)
    (hs : session.serves name = true) (path : Text) :
    (session.extractFrom disk directive path).2 =
      (session.sight disk name path).bind fun indexed => Extractor.select indexed directive := by
  obtain ⟨cache, hcache, he⟩ := extractFrom_served disk h hs path
  rw [he, sight, ← hcache, ← Cache.result_fetch]
  unfold Extractor.member
  dsimp only
  cases (cache.fetch path (Extractor.load disk)).2.result <;> rfl

end Session

/-- The text and the index, which are all that an excerpt depends on. -/
def IndexedSource.content (indexed : IndexedSource) : Text × Index := (indexed.source, indexed.index)

theorem Extractor.select_eq_of_content [Backend] {indexed indexed' : IndexedSource}
    (h : indexed.content = indexed'.content) (directive : Directive) : select indexed directive = select indexed' directive := by
  obtain ⟨hs, hi⟩ := Prod.mk.inj h
  rw [select, select, hs, hi]

theorem Extractor.load_content [Backend] (disk : Files.Disk) (path : Text) :
    (load disk path).toOption.map IndexedSource.content =
      (disk.readText path).toOption.map fun source => (source, indexOf source) := by
  unfold load
  cases disk.readText path <;> rfl

namespace Session
variable [Backend] {disk : Files.Disk} {s t u : Session}

/-- The sessions answer alike as long as the disk is the given one. -/
structure Agrees (disk : Files.Disk) (s t : Session) : Prop where
  registry : t.registry = s.registry
  roots : t.roots = s.roots
  serves : ∀ name, t.serves name = s.serves name
  sight : ∀ name path, Target.Names disk path →
    (t.sight disk name path).map IndexedSource.content = (s.sight disk name path).map IndexedSource.content

namespace Agrees

theorem refl (disk : Files.Disk) (s : Session) : Agrees disk s s := ⟨rfl, rfl, fun _ => rfl, fun _ _ _ => rfl⟩

theorem trans (h : Agrees disk s t) (h' : Agrees disk t u) : Agrees disk s u where
  registry := h'.registry.trans h.registry
  roots := h'.roots.trans h.roots
  serves name := (h'.serves name).trans (h.serves name)
  sight name path hp := (h'.sight name path hp).trans (h.sight name path hp)

theorem extractFrom_eq (h : Agrees disk s t) (directive : Directive) {path : Text} (hp : Target.Names disk path) :
    (t.extractFrom disk directive path).2 = (s.extractFrom disk directive path).2 := by
  have hreg : t.registry.resolve? directive.language = s.registry.resolve? directive.language := by rw [h.registry]
  cases hr : s.registry.resolve? directive.language with
  | none => rw [extractFrom_plain hr, extractFrom_plain (hreg.trans hr)]
  | some name =>
    cases hs : s.serves name with
    | false => rw [extractFrom_unserved hr hs, extractFrom_unserved (hreg.trans hr) ((h.serves name).trans hs)]
    | true =>
      rw [extractFrom_answer hr hs, extractFrom_answer (hreg.trans hr) ((h.serves name).trans hs)]
      have hsight := h.sight name path hp
      cases ht : t.sight disk name path <;> cases hs : s.sight disk name path <;>
        simp only [ht, hs, Except.map, Except.error.injEq, Except.ok.injEq, reduceCtorEq] at hsight
      · rw [hsight]
      · exact Extractor.select_eq_of_content hsight directive

/-- Sessions that agree give the same answers. -/
theorem extract_eq (h : Agrees disk s t) (directive : Directive) (directory : Option Text) :
    (t.extract disk directive directory).2 = (s.extract disk directive directory).2 := by
  unfold extract
  rw [h.roots]
  cases hr : Target.resolve disk directive.path directory s.roots with
  | error e => rfl
  | ok path => simp only [h.extractFrom_eq directive (Target.names_of_resolve hr)]

end Agrees

theorem sight_extractFrom (s : Session) (directive : Directive) {path p : Text} (n : Text)
    (hpath : Target.Names disk path) (hp : Target.Names disk p) :
    ((s.extractFrom disk directive path).1.sight disk n p).map IndexedSource.content =
      (s.sight disk n p).map IndexedSource.content := by
  rcases extractFrom_fst_cases disk s directive path with h | ⟨name, hr, hs⟩
  · rw [h]
  · rw [sight, sight, remembered?_extractFrom hr hs]
    split
    next hc =>
      cases s.remembered? n p with
      | some indexed => rfl
      | none =>
        -- what is remembered now was read under another form of the same path
        rw [Option.none_or, Option.elim_none, Extractor.load, Extractor.load, hp.readText_eq hpath hc.2]
        cases disk.readText path <;> rfl
    next => rfl

theorem agrees_extractFrom (s : Session) (directive : Directive) {path : Text} (hp : Target.Names disk path) :
    Agrees disk s (s.extractFrom disk directive path).1 where
  registry := by rw [extractFrom_fst]
  roots := by rw [extractFrom_fst]
  serves := serves_extractFrom
  sight n _ hn := sight_extractFrom s directive n hp hn

/-- As long as the disk stays the same, an extraction changes no later answer. -/
theorem agrees_extract (disk : Files.Disk) (s : Session) (directive : Directive) (directory : Option Text) :
    Agrees disk s (s.extract disk directive directory).1 := by
  unfold extract
  cases hr : Target.resolve disk directive.path directory s.roots with
  | error e => exact .refl disk s
  | ok path => exact agrees_extractFrom s directive (Target.names_of_resolve hr)

end Session

end Excerpt
