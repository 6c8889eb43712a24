import Excerpt.Config
import Excerpt.Proofs.RegistryRuns

/-!
# Language tags of accepted settings

Settings are checked against the built-in registry, but the registry that they make is extended tag by tag, and each
target is looked up in what has been made so far. The two agree because the built-in registry knows one extractor
(`Registry.Uniform`): a further tag can only lead to that one, so it neither takes a tag away from it nor leads a later
target elsewhere (`resolve?_addLanguage`). `Config.Offends` says what is wrong with settings, one fault at a time, and
`validate` lists exactly these faults in the order of `Offence.Before`.
-/

namespace Excerpt

namespace Registry
variable {registry : Registry} {name tag : Text}

/-- All tags that resolve lead to one extractor. -/
def Uniform (registry : Registry) (name : Text) : Prop := ∀ tag n, registry.resolve? tag = some n → n = name

theorem resolve?_of_has (h : registry.has (normalize tag)) : registry.resolve? tag = some (normalize tag) := if_pos h

theorem resolve?_of_has_eq_false (h : registry.has (normalize tag) = false) :
    registry.resolve? tag = registry.aliases.lookup (normalize tag) := by
  unfold resolve?
  simp [h]

theorem resolve?_setAlias (h : registry.Uniform name) (tag tag' : Text) :
    (registry.setAlias tag name).resolve? tag' =
      if normalize tag' = normalize tag then some name else registry.resolve? tag' := by
  have hsame : (registry.setAlias tag name).has (normalize tag') = registry.has (normalize tag') := rfl
  cases hhas : registry.has (normalize tag') with
  | true =>
    -- a form that is a name leads to itself, which is then the one extractor
    have hname := h tag' _ (resolve?_of_has hhas)
    rw [resolve?_of_has (hsame.trans hhas), resolve?_of_has hhas, hname, ite_self]
  | false =>
    rw [resolve?_of_has_eq_false (hsame.trans hhas), resolve?_of_has_eq_false hhas, lookup_setAlias]
    simp only [eq_comm]

theorem Uniform.setAlias (h : registry.Uniform name) (tag : Text) : (registry.setAlias tag name).Uniform name := by
  intro tag' n hn
  rw [resolve?_setAlias h] at hn
  split at hn
  · exact (Option.some.inj hn).symm
  · exact h tag' n hn

theorem uniform_withDefaults : withDefaults.Uniform csharp := by
  have hregister : (empty.register csharp).Uniform csharp := by
    intro tag n hn
    unfold resolve? at hn
    dsimp only at hn
    split at hn
    next hhas =>
      obtain hn' | hn' := mem_names_register.1 (has_iff.1 hhas)
      · exact (Option.some.inj hn).symm.trans hn'
      · cases hn'
    next => cases hn
  exact (hregister.setAlias _).setAlias _

end Registry

namespace Config
open Registry hiding normalize
variable {registry : Registry} {config : Config} {languages : List (Text × Text)} {name target : Text}

/-! ### The registry of the settings -/

theorem resolve?_addLanguage (h : registry.Uniform name) (hr : (registry.resolve? target).isSome) (tag tag' : Text) :
    (addLanguage registry tag target).resolve? tag' =
      if Registry.normalize tag' = Registry.normalize tag then some name else registry.resolve? tag' := by
  obtain ⟨n, hn⟩ := Option.isSome_iff_exists.1 hr
  rw [addLanguage, hn, h target n hn]
  exact resolve?_setAlias h tag tag'

theorem uniform_addLanguage (h : registry.Uniform name) (tag target : Text) :
    (addLanguage registry tag target).Uniform name := by
  unfold addLanguage
  split
  next n hn => rw [h target n hn]; exact h.setAlias tag
  next => exact h

/-- Where the targets of the further tags resolve from the start, all of them lead to the one extractor, and the other
tags lead where they led before. -/
theorem resolve?_foldl_addLanguage (h : registry.Uniform name)
    (hr : ∀ p ∈ languages, (registry.resolve? p.2).isSome) (tag : Text) :
    (languages.foldl (fun registry p => addLanguage registry p.1 p.2) registry).resolve? tag =
      if Registry.normalize tag ∈ languages.map fun p => Registry.normalize p.1 then some name
      else registry.resolve? tag := by
  induction languages generalizing registry with
  | nil => simp
  | cons p languages ih =>
    obtain ⟨hp, hlanguages⟩ := List.forall_mem_cons.1 hr
    have hstep := resolve?_addLanguage h hp p.1
    -- a tag that was added may stand in the way of a later target, but then it leads to the same extractor
    have hrest : ∀ q ∈ languages, ((addLanguage registry p.1 p.2).resolve? q.2).isSome := by
      intro q hq
      rw [hstep]
      split
      · rfl
      · exact hlanguages q hq
    rw [List.foldl_cons, ih (uniform_addLanguage h p.1 p.2) hrest, hstep, List.map_cons]
    simp only [List.mem_cons]
    by_cases hmem : Registry.normalize tag ∈ languages.map fun p => Registry.normalize p.1
    · rw [if_pos hmem, if_pos (.inr hmem)]
    · simp only [hmem, or_false, if_false]

theorem resolve?_registry (h : ∀ p ∈ config.languages, (withDefaults.resolve? p.2).isSome) (tag : Text) :
    config.registry.resolve? tag =
      if Registry.normalize tag ∈ config.languages.map fun p => Registry.normalize p.1 then some csharp
      else withDefaults.resolve? tag :=
  resolve?_foldl_addLanguage uniform_withDefaults h tag

/-! ### What is wrong with settings -/

/-- What can be wrong with a language tag. -/
inductive Fault where
  | blankTag
  | unknownTarget
deriving DecidableEq, Repr

/-- A root or a language tag that is not accepted. -/
inductive Offence where
  | root (index : Nat)
  | language (tag target : Text) (fault : Fault)
deriving DecidableEq, Repr

namespace Offence

/-- What is said of an offence. -/
def issue : Offence → Issue
  | root index => .blankRoot index
  | language _ target .blankTag => .blankTag target
  | language tag target .unknownTarget => .unknownExtractor tag target

/-- Roots come before tags, both in order; of one tag its form comes before its target. -/
def Before : Offence → Offence → Prop
  | root i, root j => i < j
  | root _, language .. => True
  | language .., root _ => False
  | language tag _ fault, language tag' _ fault' =>
    tag < tag' ∨ tag = tag' ∧ fault = .blankTag ∧ fault' = .unknownTarget

end Offence

/-- The offence is one that the settings commit. -/
def Offends (config : Config) : Offence → Prop
  | .root index => ∃ root, config.roots[index]? = some root ∧ root.allBlank
  | .language tag target .blankTag => (tag, target) ∈ config.languages ∧ tag.allBlank
  | .language tag target .unknownTarget => (tag, target) ∈ config.languages ∧ withDefaults.resolve? target = none

/-- The offences of one tag. -/
def languageOffences (p : Text × Text) : List Offence :=
  (if p.1.allBlank then [.language p.1 p.2 .blankTag] else []) ++
    (if (withDefaults.resolve? p.2).isNone then [.language p.1 p.2 .unknownTarget] else [])

/-- All offences, in the order in which they are told. -/
def offences (config : Config) : List Offence :=
  (blankIndices 0 config.roots).map .root ++ config.languages.flatMap languageOffences

theorem languageIssues_eq_map (p : Text × Text) : languageIssues p.1 p.2 = (languageOffences p).map Offence.issue := by
  rw [languageIssues, languageOffences, List.map_append]
  congr 1 <;> split <;> rfl

theorem issues_eq_map (config : Config) : config.issues = config.offences.map Offence.issue := by
  rw [issues, offences, List.map_append, List.map_map, List.map_flatMap]
  congr 1
  exact congrArg config.languages.flatMap (funext languageIssues_eq_map)

theorem mem_blankIndices {start i : Nat} {roots : List Text} :
    i ∈ blankIndices start roots ↔ ∃ k root, i = start + k ∧ roots[k]? = some root ∧ root.allBlank := by
  induction roots generalizing start with
  | nil => simp [blankIndices]
  | cons root rest ih =>
    rw [blankIndices, List.mem_append, ih]
    constructor
    · rintro (hi | ⟨k, r, rfl, hr, hblank⟩)
      · split at hi
        next hblank => exact ⟨0, root, List.mem_singleton.1 hi, rfl, hblank⟩
        next => cases hi
      · exact ⟨k + 1, r, by omega, hr, hblank⟩
    · rintro ⟨k, r, rfl, hr, hblank⟩
      cases k with
      | zero => cases hr; exact .inl (by simp [hblank])
      | succ k => exact .inr ⟨k, r, by omega, hr, hblank⟩

theorem pairwise_blankIndices (start : Nat) (roots : List Text) : (blankIndices start roots).Pairwise (· < ·) := by
  induction roots generalizing start with
  | nil => exact .nil
  | cons root rest ih =>
    rw [blankIndices]
    split
    · refine List.pairwise_cons.2 ⟨fun i hi => ?_, ih _⟩
      obtain ⟨k, -, rfl, -⟩ := mem_blankIndices.1 hi
      omega
    · exact ih _

theorem mem_languageOffences {p : Text × Text} {o : Offence} :
    o ∈ languageOffences p ↔
      (o = .language p.1 p.2 .blankTag ∧ p.1.allBlank) ∨
      (o = .language p.1 p.2 .unknownTarget ∧ withDefaults.resolve? p.2 = none) := by
  rw [languageOffences, List.mem_append]
  refine or_congr ?_ ?_
  · split <;> simp [*]
  · split <;> simp_all

/-- The settings commit exactly the offences that are told. -/
theorem mem_offences {o : Offence} : o ∈ config.offences ↔ config.Offends o := by
  rw [offences, List.mem_append, List.mem_map, List.mem_flatMap]
  simp only [mem_blankIndices, mem_languageOffences, Nat.zero_add]
  cases o with
  | root index => simp [Offends]
  | language tag target fault => cases fault <;> simp [Offends]

theorem pairwise_languageOffences (p : Text × Text) : (languageOffences p).Pairwise Offence.Before := by
  rw [languageOffences]
  split <;> split <;> simp [Offence.Before]

theorem exists_fault_of_mem {p : Text × Text} {o : Offence} (h : o ∈ languageOffences p) :
    ∃ fault, o = .language p.1 p.2 fault := by
  rcases mem_languageOffences.1 h with ⟨rfl, -⟩ | ⟨rfl, -⟩
  exacts [⟨_, rfl⟩, ⟨_, rfl⟩]

theorem pairwise_offences (config : Config) : config.offences.Pairwise Offence.Before := by
  rw [offences, List.pairwise_append]
  refine ⟨List.pairwise_map.2 (pairwise_blankIndices 0 config.roots), ?_, fun o ho o' ho' => ?_⟩
  · rw [List.pairwise_flatMap]
    refine ⟨fun p _ => pairwise_languageOffences p, ?_⟩
    refine (List.pairwise_map.1 config.ascending).imp fun {p q} hlt o ho o' ho' => ?_
    obtain ⟨fault, rfl⟩ := exists_fault_of_mem ho
    obtain ⟨fault', rfl⟩ := exists_fault_of_mem ho'
    exact .inl hlt
  · obtain ⟨i, -, rfl⟩ := List.mem_map.1 ho
    obtain ⟨p, -, ho'⟩ := List.mem_flatMap.1 ho'
    obtain ⟨fault, rfl⟩ := exists_fault_of_mem ho'
    trivial

/-! ### Validation -/

theorem validate_eq (config : Config) :
    config.validate = if config.offences.isEmpty then .ok () else .error (config.offences.map Offence.issue) := by
  rw [validate, issues_eq_map, List.isEmpty_map]

theorem validate_eq_ok_iff : config.validate = .ok () ↔ ∀ o, ¬ config.Offends o := by
  simp only [← mem_offences, ← List.eq_nil_iff_forall_not_mem, ← List.isEmpty_iff]
  rw [validate_eq]
  cases config.offences.isEmpty <;> simp

theorem forall_not_offends_iff :
    (∀ o, ¬ config.Offends o) ↔
      (∀ root ∈ config.roots, ¬ root.allBlank) ∧
      ∀ p ∈ config.languages, ¬ p.1.allBlank ∧ (withDefaults.resolve? p.2).isSome := by
  constructor
  · intro h
    refine ⟨fun root hroot hblank => ?_, fun p hp => ⟨fun hblank => ?_, ?_⟩⟩
    · obtain ⟨i, hi⟩ := List.mem_iff_getElem?.1 hroot
      exact h (.root i) ⟨root, hi, hblank⟩
    · exact h (.language p.1 p.2 .blankTag) ⟨hp, hblank⟩
    · exact Option.isSome_iff_ne_none.2 fun hnone => h (.language p.1 p.2 .unknownTarget) ⟨hp, hnone⟩
  · rintro ⟨hroots, hlanguages⟩ o ho
    cases o with
    | root i =>
      obtain ⟨root, hi, hblank⟩ := ho
      exact hroots root (List.mem_of_getElem? hi) hblank
    | language tag target fault =>
      cases fault with
      | blankTag => exact (hlanguages _ ho.1).1 ho.2
      | unknownTarget => exact Option.isSome_iff_ne_none.1 (hlanguages _ ho.1).2 ho.2

/-- Settings are accepted exactly if no root and no tag is blank and every target resolves in the built-in registry.
Otherwise all offences are told, the roots by index and then the tags in the order of the keys. The registry of accepted
settings leads every further tag to the extractor of its target, also where tags have one form or a built-in one; the
built-in tags lead where they led, and no other tag leads anywhere. -/
theorem validate_noDeadTags (config : Config) :
    (config.validate = .ok () ↔
      (∀ root ∈ config.roots, ¬ root.allBlank) ∧
      ∀ p ∈ config.languages, ¬ p.1.allBlank ∧ (withDefaults.resolve? p.2).isSome) ∧
    (∃ offences : List Offence,
      config.validate = (if offences.isEmpty then .ok () else .error (offences.map Offence.issue)) ∧
      (∀ o, o ∈ offences ↔ config.Offends o) ∧ offences.Pairwise Offence.Before) ∧
    (config.validate = .ok () →
      (∀ p ∈ config.languages, ∃ name,
        withDefaults.resolve? p.2 = some name ∧ config.registry.resolve? p.1 = some name) ∧
      (∀ tag name, withDefaults.resolve? tag = some name → config.registry.resolve? tag = some name) ∧
      ∀ tag, (config.registry.resolve? tag).isSome →
        (withDefaults.resolve? tag).isSome ∨
          ∃ p ∈ config.languages, Registry.normalize p.1 = Registry.normalize tag) := by
  have hiff : config.validate = .ok () ↔ _ := validate_eq_ok_iff.trans forall_not_offends_iff
  refine ⟨hiff, ⟨config.offences, validate_eq config, fun o => mem_offences, pairwise_offences config⟩, fun hok => ?_⟩
  have htargets : ∀ p ∈ config.languages, (withDefaults.resolve? p.2).isSome := fun p hp => ((hiff.1 hok).2 p hp).2
  have hresolve := resolve?_registry htargets
  refine ⟨fun p hp => ?_, fun tag name hname => ?_, fun tag hsome => ?_⟩
  · obtain ⟨name, hname⟩ := Option.isSome_iff_exists.1 (htargets p hp)
    refine ⟨name, hname, ?_⟩
    rw [hresolve, if_pos (List.mem_map_of_mem hp), uniform_withDefaults p.2 name hname]
  · rw [hresolve, hname, uniform_withDefaults tag name hname, ite_self]
  · rw [hresolve] at hsome
    split at hsome
    next hmem =>
      obtain ⟨p, hp, heq⟩ := List.mem_map.1 hmem
      exact .inr ⟨p, hp, heq⟩
    next => exact .inl hsome

/-- Two tags of one form, and a tag of the form of the extractor. -/
def sharedForms : Config :=
  ⟨["src".toList], [(" NET ".toList, "C#".toList), ("CSharp".toList, " cs".toList), ("net".toList, "CSHARP".toList)],
    by decide⟩

/-- A blank root, and a blank tag whose target is a further tag. -/
def blankForms : Config :=
  ⟨["src".toList, " ".toList], [(" ".toList, "net".toList), ("net".toList, "cs".toList), ("x".toList, "vb".toList)],
    by decide⟩

theorem validate_noDeadTags_sharedForms :
    sharedForms.validate = .ok () ∧
      (∀ p ∈ sharedForms.languages, ∃ name,
        withDefaults.resolve? p.2 = some name ∧ sharedForms.registry.resolve? p.1 = some name) ∧
      blankForms.validate = .error [.blankRoot 1, .blankTag "net".toList,
        .unknownExtractor " ".toList "net".toList, .unknownExtractor "x".toList "vb".toList] ∧
      ∃ offences : List Offence, offences.length = 4 ∧ offences.Pairwise Offence.Before ∧
        ∀ o, o ∈ offences ↔ blankForms.Offends o := by
  have hok : sharedForms.validate = .ok () := by decide +kernel
  have herror : blankForms.validate = .error [.blankRoot 1, .blankTag "net".toList,
      .unknownExtractor " ".toList "net".toList, .unknownExtractor "x".toList "vb".toList] := by decide +kernel
  obtain ⟨offences, heq, hmem, horder⟩ := (validate_noDeadTags blankForms).2.1
  refine ⟨hok, ((validate_noDeadTags sharedForms).2.2 hok).1, herror, offences, ?_, horder, hmem⟩
  rw [herror] at heq
  split at heq
  · cases heq
  · have hlength := congrArg List.length (Except.error.inj heq)
    rw [List.length_map] at hlength
    exact hlength.symm

end Config

end Excerpt
