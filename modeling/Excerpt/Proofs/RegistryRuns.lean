import Excerpt.Backend.Standard
import Excerpt.Proofs.NodeUnion
import Excerpt.Proofs.SessionMemory

/-!
# Runs of a registry

A registry is changed by requests: an extractor is registered, or a tag is led to one. `Registry.handle` is one request
and `Registry.serveAll` a run of them. `Sound` says that tags lead to extractors that exist; no request breaks it
(`Sound.handle`), because names are only ever added. Where a form leads is changed only by a request that leads that
form somewhere (`lookup_handle_of_leads_eq_false`), so it stays through a run without one (`lookup_serveAll`).
-/

namespace Excerpt

namespace Registry
/-- A change that is asked of a registry. -/
inductive Request where
  | register (name : Text)
  | addAlias (tag target : Text)
deriving DecidableEq, Repr

variable {registry : Registry} {tag target form name n : Text} {later : List Request}

/-- The registry after a request, and how the request ended. -/
def handle (registry : Registry) : Request → Registry × Except UnknownExtractor Unit
  | .register name => (registry.register name, .ok ())
  | .addAlias tag target =>
    match registry.addAlias tag target with
    | .ok registry => (registry, .ok ())
    | .error e => (registry, .error e)

/-- The registry after a run of requests. -/
def serveAll (registry : Registry) (requests : List Request) : Registry :=
  requests.foldl (fun registry request => (registry.handle request).1) registry

/-- Whether the request leads the form to an extractor. -/
def leads (form : Text) (registry : Registry) : Request → Bool
  | .register _ => false
  | .addAlias tag target => normalize tag == form && registry.has target.lowerCase

/-- No request of the run leads the form anywhere; those that ask for it fail. -/
def leavesAlone (form : Text) (registry : Registry) : List Request → Bool
  | [] => true
  | request :: later => !leads form registry request && leavesAlone form (registry.handle request).1 later

theorem has_iff : registry.has name ↔ name ∈ registry.names := by simp [has]

theorem handle_addAlias (registry : Registry) (tag target : Text) :
    registry.handle (.addAlias tag target) =
      if registry.has target.lowerCase then (registry.setAlias tag target.lowerCase, .ok ())
      else (registry, .error ⟨tag, target⟩) := by
  unfold handle addAlias
  by_cases h : registry.has target.lowerCase <;> simp [h]

theorem handle_addAlias_ok_iff :
    (registry.handle (.addAlias tag target)).2 = .ok () ↔ target.lowerCase ∈ registry.names := by
  rw [handle_addAlias, ← has_iff]
  by_cases h : registry.has target.lowerCase <;> simp [h]

/-! ### Names -/

theorem mem_names_register : n ∈ (registry.register name).names ↔ n = name ∨ n ∈ registry.names :=
  Table.mem_keys_insert

theorem mem_names_handle (h : n ∈ registry.names) (request : Request) : n ∈ (registry.handle request).1.names := by
  cases request with
  | register name => exact mem_names_register.2 (.inr h)
  | addAlias tag target =>
    rw [handle_addAlias]
    split
    · exact h
    · exact h

theorem mem_names_serveAll (h : n ∈ registry.names) (requests : List Request) :
    n ∈ (registry.serveAll requests).names := by
  induction requests generalizing registry with
  | nil => exact h
  | cons request requests ih => exact ih (mem_names_handle h request)

/-! ### Where forms lead -/

/-- Every form leads to an extractor that exists. -/
def Sound (registry : Registry) : Prop :=
  ∀ form name, registry.aliases.lookup form = some name → name ∈ registry.names

theorem lookup_setAlias (registry : Registry) (tag name form : Text) :
    (registry.setAlias tag name).aliases.lookup form =
      if normalize tag = form then some name else registry.aliases.lookup form := by
  split
  next h => subst h; exact Table.lookup_insert_self _
  next h => exact Table.lookup_insert_of_ne (Ne.symm h) _

/-- A form leads where it led before, unless the request leads it elsewhere. -/
theorem lookup_handle_of_leads_eq_false {request : Request} (h : leads form registry request = false) :
    (registry.handle request).1.aliases.lookup form = registry.aliases.lookup form := by
  cases request with
  | register name => rfl
  | addAlias tag target =>
    rw [handle_addAlias]
    split
    next hhas =>
      have hform : normalize tag ≠ form := by simpa [leads, hhas] using h
      exact (lookup_setAlias registry tag _ form).trans (if_neg hform)
    next => rfl

theorem lookup_serveAll (h : leavesAlone form registry later) :
    (registry.serveAll later).aliases.lookup form = registry.aliases.lookup form := by
  induction later generalizing registry with
  | nil => rfl
  | cons request later ih =>
    obtain ⟨hleads, hlater⟩ := Bool.and_eq_true_iff.1 h
    exact (ih hlater).trans (lookup_handle_of_leads_eq_false (by simpa using hleads))

namespace Sound

theorem empty : Sound empty := fun _ _ h => nomatch h

theorem register (h : Sound registry) (name : Text) : Sound (registry.register name) :=
  fun form n hn => mem_names_register.2 (.inr (h form n hn))

theorem setAlias (h : Sound registry) (hn : name ∈ registry.names) (tag : Text) :
    Sound (registry.setAlias tag name) := by
  intro form n hl
  rw [lookup_setAlias] at hl
  split at hl
  · cases hl
    exact hn
  · exact h form n hl

theorem withDefaults : Sound withDefaults := by
  have hregister : Sound (Registry.empty.register csharp) := empty.register csharp
  have hname : csharp ∈ (Registry.empty.register csharp).names := mem_names_register.2 (.inl rfl)
  exact (hregister.setAlias hname _).setAlias hname _

theorem handle (h : Sound registry) (request : Request) : Sound (registry.handle request).1 := by
  cases request with
  | register name => exact h.register name
  | addAlias tag target =>
    rw [handle_addAlias]
    split
    next hhas => exact h.setAlias (has_iff.1 hhas) tag
    next => exact h

theorem serveAll (h : Sound registry) (requests : List Request) : Sound (registry.serveAll requests) := by
  induction requests generalizing registry with
  | nil => exact h
  | cons request requests ih => exact ih (h.handle request)

theorem mem_names_of_resolve? (h : Sound registry) (hr : registry.resolve? tag = some name) :
    name ∈ registry.names := by
  unfold resolve? at hr
  dsimp only at hr
  split at hr
  next hhas =>
    cases hr
    exact has_iff.1 hhas
  next => exact h _ _ hr

end Sound

theorem resolve?_of_lookup (h : registry.aliases.lookup (normalize tag) = some name) :
    registry.resolve? tag = some (if normalize tag ∈ registry.names then normalize tag else name) := by
  unfold resolve?
  by_cases hn : normalize tag ∈ registry.names
  · simp [has_iff.2 hn, hn]
  · have hhas : registry.has (normalize tag) = false := Bool.eq_false_iff.2 fun hc => hn (has_iff.1 hc)
    simp [hhas, hn, h]

theorem isSome_create?_iff : (registry.create? name).isSome ↔ name ∈ registry.names := by
  rw [← has_iff, create?]
  by_cases h : registry.has name <;> simp [h]

end Registry

theorem Extractor.select_ne_unsupported [Backend] {indexed : IndexedSource} {directive : Directive}
    {language selector : Text} :
    select indexed directive ≠ .error (.unsupportedSelector language selector) := by
  unfold select
  split
  · simp
  · simp [ExtractError.ofLookup]

namespace Session
variable {disk : Files.Disk} {session : Session} {directive : Directive} {path name : Text}

theorem extractFrom_ne_unsupported [Backend] (hr : session.registry.resolve? directive.language = some name)
    (hs : session.serves name = true) (path language selector : Text) :
    (session.extractFrom disk directive path).2 ≠ .error (.unsupportedSelector language selector) := by
  rw [extractFrom_answer hr hs, sight]
  intro h
  cases hm : session.remembered? name path with
  | some indexed =>
    rw [hm] at h
    exact Extractor.select_ne_unsupported h
  | none =>
    rw [hm] at h
    unfold Extractor.load at h
    cases hread : disk.readText path with
    | ok source =>
      simp only [hread] at h
      exact Extractor.select_ne_unsupported h
    | error e => simp [hread, Except.bind] at h

end Session

namespace Registry
variable {start registry : Registry} {earlier : List Request}

theorem serveAll_cons (registry : Registry) (request : Request) (later : List Request) :
    registry.serveAll (request :: later) = (registry.handle request).1.serveAll later := rfl

theorem serveAll_append (registry : Registry) (requests later : List Request) :
    registry.serveAll (requests ++ later) = (registry.serveAll requests).serveAll later := List.foldl_append ..

theorem sound_serveAll (hstart : start ∈ [empty, withDefaults]) (requests : List Request) :
    Sound (start.serveAll requests) := by
  have h : Sound start := by
    simp only [List.mem_cons, List.not_mem_nil, or_false] at hstart
    rcases hstart with rfl | rfl
    · exact .empty
    · exact .withDefaults
  exact h.serveAll requests

/-- What holds of a registry that started without extractors or with the built-in ones, whatever it was asked since. A
tag that resolves leads to an extractor that exists and can be made, so a session never refuses the tag for want of one.
A request that fails changes nothing. After a tag was led to a target, all tags of its form resolve to the name that the
target is in lower case, until a request leads that form elsewhere; a form that is a name itself resolves to itself. -/
theorem resolve?_serveAll [Backend] (hstart : start ∈ [empty, withDefaults]) (h : start.serveAll earlier = registry) :
    (∀ tag name, registry.resolve? tag = some name → name ∈ registry.names ∧ (registry.create? name).isSome) ∧
    (∀ (disk : Files.Disk) (session : Session) (directive : Directive) (path name language selector : Text),
      session.registry = registry → registry.resolve? directive.language = some name →
      (session.extractFrom disk directive path).2 ≠ .error (.unsupportedSelector language selector)) ∧
    (∀ tag target e, (registry.handle (.addAlias tag target)).2 = .error e →
      (registry.handle (.addAlias tag target)).1 = registry) ∧
    ∀ tag target later tag', (registry.handle (.addAlias tag target)).2 = .ok () →
      leavesAlone (normalize tag) (registry.handle (.addAlias tag target)).1 later →
      normalize tag' = normalize tag →
      target.lowerCase ∈ (registry.serveAll (.addAlias tag target :: later)).names ∧
      (registry.serveAll (.addAlias tag target :: later)).resolve? tag' =
        some (if normalize tag ∈ (registry.serveAll (.addAlias tag target :: later)).names then normalize tag
          else target.lowerCase) := by
  have hsound : Sound registry := h ▸ sound_serveAll hstart earlier
  have hcreate : ∀ tag name, registry.resolve? tag = some name → (registry.create? name).isSome :=
    fun tag name hr => isSome_create?_iff.2 (hsound.mem_names_of_resolve? hr)
  refine ⟨fun tag name hr => ⟨hsound.mem_names_of_resolve? hr, hcreate tag name hr⟩, ?_, ?_, ?_⟩
  · intro disk session directive path name language selector hs hr
    have hserves : session.serves name = true := by
      rw [Session.serves, hs, hcreate _ _ hr, Bool.or_true]
    exact Session.extractFrom_ne_unsupported (hs ▸ hr) hserves path language selector
  · intro tag target e he
    rw [handle_addAlias] at he ⊢
    split
    next hhas => simp [hhas] at he
    next => rfl
  · intro tag target later tag' hok hlater htag
    have hname : target.lowerCase ∈ registry.names := handle_addAlias_ok_iff.1 hok
    have hset : (registry.handle (.addAlias tag target)).1 = registry.setAlias tag target.lowerCase := by
      rw [handle_addAlias, if_pos (has_iff.2 hname)]
    have hlookup : (registry.serveAll (.addAlias tag target :: later)).aliases.lookup (normalize tag) =
        some target.lowerCase := by
      rw [serveAll_cons, lookup_serveAll hlater, hset, lookup_setAlias, if_pos rfl]
    refine ⟨mem_names_serveAll hname _, ?_⟩
    rw [← htag] at hlookup ⊢
    exact resolve?_of_lookup hlookup

/-- A second extractor, and a tag that is led to the first one. -/
def twoExtractors : List Request := [.register "vb".toList, .addAlias " Net ".toList "CSHARP".toList]

/-- The tag is led to the second extractor; asking for one that does not exist changes nothing, and at last the tag
becomes a name itself. -/
theorem resolve?_serveAll_twoExtractors :
    withDefaults ∈ [empty, withDefaults] ∧
      (withDefaults.serveAll twoExtractors).resolve? "net".toList = some "csharp".toList ∧
      (withDefaults.serveAll (twoExtractors ++ [.addAlias "NET".toList "VB".toList,
        .addAlias "net".toList "vb ".toList])).resolve? "nEt ".toList = some "vb".toList ∧
      (withDefaults.serveAll (twoExtractors ++ [.addAlias "NET".toList "VB".toList,
        .addAlias "net".toList "vb ".toList, .register "net".toList])).resolve? "nEt ".toList =
          some "net".toList := by
  have hstart : withDefaults ∈ [empty, withDefaults] := by simp
  obtain ⟨-, -, -, hlead⟩ := resolve?_serveAll hstart (rfl : withDefaults.serveAll twoExtractors = _)
  have hfirst := hlead "NET".toList "VB".toList [.addAlias "net".toList "vb ".toList] "nEt ".toList
    (by decide +kernel) (by decide +kernel) (by decide +kernel)
  have hlast := hlead "NET".toList "VB".toList [.addAlias "net".toList "vb ".toList, .register "net".toList]
    "nEt ".toList (by decide +kernel) (by decide +kernel) (by decide +kernel)
  refine ⟨hstart, by decide +kernel, ?_, ?_⟩
  · rw [serveAll_append, hfirst.2]
    decide +kernel
  · rw [serveAll_append, hlast.2]
    decide +kernel

end Registry

end Excerpt
