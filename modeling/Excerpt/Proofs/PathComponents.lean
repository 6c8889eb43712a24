import Excerpt.Proofs.PathWalks

/-!
# Components of paths

A path and its components have the same parts that count, so the path that is made of the components leads where the
path does.
-/

namespace Excerpt

namespace Path
variable {path : Text} {c names : List Text}

/-! ### Components -/

structure IsPart (part : Text) : Prop where
  not_isIdle : ¬ isIdle part
  not_mem : '/' ∉ part

theorem Below.isPart (h : Below names) : ∀ name ∈ names, IsPart name := fun name hm =>
  have hname := isName_iff.1 (h.isName name hm)
  ⟨hname.1, hname.2.2⟩

/-- Components as paths have them: the root, a dot or a part that counts, and then further such parts. -/
structure Canonical (c : List Text) : Prop where
  ne_nil : c ≠ []
  head : ∀ first ∈ c.head?, first = rootName ∨ first = dot ∨ IsPart first
  tail : ∀ part ∈ c.tail, IsPart part

theorem Canonical.append (h : Canonical c) (hnames : ∀ name ∈ names, IsPart name) : Canonical (c ++ names) := by
  obtain ⟨first, rest, rfl⟩ := List.exists_cons_of_ne_nil h.ne_nil
  refine ⟨List.cons_ne_nil _ _, h.head, fun part hm => ?_⟩
  rcases List.mem_append.1 hm with hm | hm
  · exact h.tail part hm
  · exact hnames part hm

theorem Canonical.of_append (h : Canonical (c ++ names)) (hne : c ≠ []) : Canonical c := by
  obtain ⟨first, rest, rfl⟩ := List.exists_cons_of_ne_nil hne
  exact ⟨hne, h.head, fun part hm => h.tail part (List.mem_append_left names hm)⟩

/-- The parts of a path with the given components. -/
def partsOf : List Text → List Text
  | [] => []
  | first :: rest => (if first = rootName then [] else first) :: rest

theorem partsOf_append (h : c ≠ []) (names : List Text) : partsOf (c ++ names) = partsOf c ++ names := by
  obtain ⟨first, rest, rfl⟩ := List.exists_cons_of_ne_nil h
  rfl

theorem partsOf_concat {last : Text} (h : c ++ [last] ≠ [rootName]) : partsOf (c ++ [last]) = partsOf c ++ [last] := by
  cases c with
  | nil =>
    have hroot : last ≠ rootName := by
      rintro rfl
      exact h rfl
    show [if last = rootName then [] else last] = [last]
    rw [if_neg hroot]
  | cons first rest => rfl

theorem split_ofComponents (h : Canonical c) :
    (ofComponents c).split '/' = partsOf c ++ if c = [rootName] then [[]] else [] := by
  obtain ⟨first, rest, rfl⟩ := List.exists_cons_of_ne_nil h.ne_nil
  have hrest : ∀ part ∈ rest, '/' ∉ part := fun part hm => (h.tail part hm).not_mem
  rw [ofComponents, partsOf]
  by_cases hroot : first = rootName
  · rw [if_pos hroot, if_pos hroot]
    subst hroot
    by_cases hnil : rest = []
    · subst hnil
      decide
    · rw [if_neg (by simpa using hnil), List.append_nil, rootName, List.singleton_append, Text.split, if_pos rfl,
        Text.split_joinWith hrest hnil]
  · have hfirst : '/' ∉ first := by
      rcases h.head first rfl with hfirst | rfl | hfirst
      · exact absurd hfirst hroot
      · decide
      · exact hfirst.not_mem
    rw [if_neg hroot, if_neg hroot, if_neg (by simp [hroot]), List.append_nil]
    exact Text.split_joinWith (List.forall_mem_cons.2 ⟨hfirst, hrest⟩) (List.cons_ne_nil _ _)

theorem isAbsolute_ofComponents (h : Canonical c) : isAbsolute (ofComponents c) = (c.head? == some rootName) := by
  obtain ⟨first, rest, rfl⟩ := List.exists_cons_of_ne_nil h.ne_nil
  rw [ofComponents]
  by_cases hroot : first = rootName
  · rw [if_pos hroot, hroot]
    rfl
  · have hfirst : first.head? ≠ some '/' ∧ first ≠ [] := by
      rcases h.head first rfl with hfirst | rfl | hfirst
      · exact absurd hfirst hroot
      · decide
      · refine ⟨fun hslash => hfirst.not_mem (List.mem_of_head? hslash), ?_⟩
        rintro rfl
        exact hfirst.not_isIdle rfl
    have hhead : (Text.joinWith ['/'] (first :: rest)).head? = first.head? := by
      cases rest with
      | nil => rfl
      | cons next rest =>
        rw [Text.joinWith, List.append_assoc, List.head?_append_of_ne_nil _ hfirst.2]
        simp
    rw [if_neg hroot, isAbsolute, hhead, beq_eq_false_iff_ne.2 hfirst.1]
    exact (beq_eq_false_iff_ne.2 (by simpa using hroot)).symm

theorem isAbsolute_ofComponents_of_append (h : Canonical (c ++ names)) (hne : c ≠ []) :
    isAbsolute (ofComponents c) = isAbsolute (ofComponents (c ++ names)) := by
  rw [isAbsolute_ofComponents (h.of_append hne), isAbsolute_ofComponents h, List.head?_append_of_ne_nil _ hne]

theorem filter_of_isPart (h : ∀ part ∈ names, IsPart part) : (names.filter fun part => !isIdle part) = names :=
  List.filter_eq_self.2 fun part hm => by simpa using (h part hm).not_isIdle

theorem components_ofComponents (h : Canonical c) : components (ofComponents c) = c := by
  have hsplit := split_ofComponents h
  have habsolute := isAbsolute_ofComponents h
  obtain ⟨first, rest, rfl⟩ := List.exists_cons_of_ne_nil h.ne_nil
  have hrest : (rest.filter fun part => !isIdle part) = rest := filter_of_isPart h.tail
  have hend : ((if first :: rest = [rootName] then [[]] else []).filter fun part => !isIdle part) = [] := by
    split <;> rfl
  rw [components, hsplit, habsolute]
  simp only [List.filter_append, hend, List.append_nil, partsOf, List.filter_cons, hrest]
  rcases h.head first rfl with rfl | rfl | hfirst
  · rfl
  · rfl
  · have hroot : first ≠ rootName := by
      rintro rfl
      exact hfirst.not_mem (by decide)
    have hdot : first ≠ dot := by
      rintro rfl
      exact hfirst.not_isIdle rfl
    simp [hroot, hdot, hfirst.not_isIdle]

/-- What the components of a path are. -/
theorem components_cases (h : path ≠ []) :
    ∃ parts : List Text, (∀ part ∈ parts, IsPart part) ∧ parts = (path.split '/').filter (fun part => !isIdle part) ∧
      (isAbsolute path = true ∧ components path = rootName :: parts ∨
        isAbsolute path = false ∧ (components path = dot :: parts ∨ components path = parts ∧ parts ≠ [])) := by
  refine ⟨(path.split '/').filter fun part => !isIdle part, ?_, rfl, ?_⟩
  · intro part hm
    obtain ⟨hm, hidle⟩ := List.mem_filter.1 hm
    exact ⟨by simpa using hidle, Text.not_mem_of_mem_split hm⟩
  · cases habsolute : isAbsolute path with
    | true => exact .inl ⟨rfl, by rw [components, habsolute, if_pos rfl]⟩
    | false =>
      refine .inr ⟨rfl, ?_⟩
      by_cases hdot : (path.split '/').head? = some dot
      · exact .inl (by simp [components, habsolute, hdot])
      · refine .inr ⟨by simp [components, habsolute, hdot], ?_⟩
        -- the first part is neither empty nor a dot
        obtain ⟨a, path, rfl⟩ := List.exists_cons_of_ne_nil h
        have ha : a ≠ '/' := by simpa [isAbsolute] using habsolute
        obtain ⟨first, rest, hfirst⟩ := List.exists_cons_of_ne_nil (Text.split_ne_nil '/' path)
        rw [Text.split, if_neg ha, hfirst] at hdot ⊢
        have hidle : isIdle (a :: first) = false := by simpa [isIdle] using hdot
        simp [hidle]

theorem canonical_components (h : path ≠ []) : Canonical (components path) := by
  obtain ⟨parts, hparts, -, ⟨-, heq⟩ | ⟨-, heq | ⟨heq, hne⟩⟩⟩ := components_cases h
  · rw [heq]
    exact ⟨List.cons_ne_nil _ _, fun first hm => .inl (Option.some.inj hm).symm, hparts⟩
  · rw [heq]
    exact ⟨List.cons_ne_nil _ _, fun first hm => .inr (.inl (Option.some.inj hm).symm), hparts⟩
  · rw [heq]
    exact ⟨hne, fun first hm => .inr (.inr (hparts first (List.mem_of_head? hm))),
      fun part hm => hparts part (List.mem_of_mem_tail hm)⟩

theorem head?_components (h : path ≠ []) : ((components path).head? == some rootName) = isAbsolute path := by
  obtain ⟨parts, hparts, -, ⟨habsolute, heq⟩ | ⟨habsolute, heq | ⟨heq, -⟩⟩⟩ := components_cases h
  · rw [heq, habsolute]
    rfl
  · rw [heq, habsolute]
    rfl
  · rw [heq, habsolute, beq_eq_false_iff_ne]
    intro hroot
    exact (hparts _ (List.mem_of_head? hroot)).not_mem (by decide)

/-- A path and its components have the same parts that count. -/
theorem filter_partsOf_components (h : path ≠ []) :
    ((partsOf (components path)).filter fun part => !isIdle part) =
      (path.split '/').filter fun part => !isIdle part := by
  obtain ⟨parts, hparts, hfilter, ⟨-, heq⟩ | ⟨-, heq | ⟨heq, hne⟩⟩⟩ := components_cases h
  · rw [heq, ← hfilter]
    exact filter_of_isPart hparts
  · rw [heq, ← hfilter]
    exact filter_of_isPart hparts
  · rw [heq, ← hfilter]
    obtain ⟨first, rest, rfl⟩ := List.exists_cons_of_ne_nil hne
    have hroot : first ≠ rootName := by
      rintro rfl
      exact (hparts _ List.mem_cons_self).not_mem (by decide)
    rw [partsOf, if_neg hroot]
    exact filter_of_isPart hparts

theorem ofComponents_ne_nil (h : Canonical c) : ofComponents c ≠ [] := by
  intro hnil
  have hcomponents := components_ofComponents h
  rw [hnil] at hcomponents
  exact h.ne_nil hcomponents.symm

/-! ### The parent -/

/-- The components of a path that ends with a name are those of the parts before it, and the name. -/
theorem components_concat {front back : List Text} {name : Text} (hsplit : path.split '/' = front ++ name :: back)
    (hname : isName name) (hback : ∀ part ∈ back, part = []) :
    ∃ c, components path = c ++ [name] ∧ (c = [] ∨ Canonical c) ∧
      ((partsOf c).filter fun part => !isIdle part) = front.filter fun part => !isIdle part := by
  have hpath : path ≠ [] := by
    rintro rfl
    have hmem : name ∈ Text.split '/' [] := hsplit ▸ List.mem_append_right _ List.mem_cons_self
    rw [List.mem_singleton.1 hmem] at hname
    cases hname
  have hbackNil : (back.filter fun part => !isIdle part) = [] :=
    List.filter_eq_nil_iff.2 fun part hm => by rw [hback part hm]; decide
  have hfilter : ((path.split '/').filter fun part => !isIdle part) =
      (front.filter fun part => !isIdle part) ++ [name] := by
    rw [hsplit, List.filter_append, List.filter_cons_of_pos (by simpa using (isName_iff.1 hname).1), hbackNil]
  obtain ⟨parts, hparts, rfl, hcases⟩ := components_cases hpath
  rw [hfilter] at hparts hcases
  have hbefore : ∀ part ∈ front.filter fun part => !isIdle part, IsPart part :=
    fun part hm => hparts part (List.mem_append_left _ hm)
  generalize front.filter (fun part => !isIdle part) = before at hbefore hcases
  rcases hcases with ⟨-, heq⟩ | ⟨-, heq | ⟨heq, -⟩⟩
  · exact ⟨rootName :: before, heq, .inr ⟨List.cons_ne_nil _ _, by simp, hbefore⟩, filter_of_isPart hbefore⟩
  · exact ⟨dot :: before, heq, .inr ⟨List.cons_ne_nil _ _, by simp, hbefore⟩, filter_of_isPart hbefore⟩
  · refine ⟨before, heq, ?_, ?_⟩
    · by_cases hnil : before = []
      · exact .inl hnil
      · exact .inr ⟨hnil, fun first hm => .inr (.inr (hbefore first (List.mem_of_head? hm))),
          fun part hm => hbefore part (List.mem_of_mem_tail hm)⟩
    · cases before with
      | nil => rfl
      | cons first before =>
        have hroot : first ≠ rootName := by
          rintro rfl
          exact (hbefore _ List.mem_cons_self).not_mem (by decide)
        rw [partsOf, if_neg hroot]
        exact filter_of_isPart hbefore

/-- The parent of a path that ends with a name, and the parts that count of the parent as a directory. -/
theorem parent?_of_split {front back : List Text} {name : Text} (hsplit : path.split '/' = front ++ name :: back)
    (hname : isName name) (hback : ∀ part ∈ back, part = []) :
    ∃ c, parent? path = some (ofComponents c) ∧ (c = [] ∨ Canonical c) ∧
      ((partsOf c).filter fun part => !isIdle part) = (front.filter fun part => !isIdle part) ∧
      orDot (ofComponents c) ≠ [] ∧ isAbsolute (orDot (ofComponents c)) = isAbsolute path ∧
      (((orDot (ofComponents c)).split '/').filter fun part => !isIdle part) =
        front.filter fun part => !isIdle part := by
  obtain ⟨c, hc, hcanonical, hparts⟩ := components_concat hsplit hname hback
  have hpath : path ≠ [] := by
    rintro rfl
    simp [components, isAbsolute, Text.split, isIdle, dot] at hc
  have hroot : name ≠ rootName := by
    rintro rfl
    exact (isName_iff.1 hname).2.2 (by decide)
  have habsolute := head?_components hpath
  refine ⟨c, ?_, hcanonical, hparts, ?_⟩
  · have hne : c ++ [name] ≠ [rootName] := by
      intro heq
      have hmem : name ∈ [rootName] := heq ▸ List.mem_append_right c List.mem_cons_self
      exact hroot (List.mem_singleton.1 hmem)
    rw [parent?, hc]
    simp [hne]
  · rcases hcanonical with rfl | hcanonical
    · refine ⟨by decide, ?_, hparts⟩
      rw [hc, List.nil_append, List.head?_cons, beq_eq_false_iff_ne.2 (by simpa using hroot)] at habsolute
      exact habsolute
    · have hne := ofComponents_ne_nil hcanonical
      have hsame : orDot (ofComponents c) = ofComponents c := if_neg (by simpa using hne)
      rw [hsame, isAbsolute_ofComponents hcanonical, ← habsolute, hc, List.head?_append_of_ne_nil _ hcanonical.ne_nil,
        ← filter_partsOf_components hne, components_ofComponents hcanonical]
      exact ⟨hne, rfl, hparts⟩

end Path

namespace Files

namespace Disk
variable {disk : Disk} {location place : Location} {parts : List Text}

/-! ### Following components -/

theorem walk_filter (h : disk.walk location parts = .ok place) :
    disk.walk location (parts.filter fun part => !Path.isIdle part) = .ok place := by
  induction parts generalizing location with
  | nil => exact h
  | cons part parts ih =>
    obtain ⟨next, hstep, hrest⟩ := walk_cons_iff.1 h
    by_cases hidle : Path.isIdle part
    · obtain ⟨entries, hentries⟩ := Tree.occupant?_eq_directory.1 (directory_of_step hstep)
      have hsame := step_idle hentries hidle
      rw [hstep] at hsame
      cases hsame
      rw [List.filter_cons_of_neg (by simp [hidle])]
      exact ih hrest
    · rw [List.filter_cons_of_pos (by simp [hidle])]
      exact walk_cons_iff.2 ⟨next, hstep, ih hrest⟩

theorem walk_of_filter (h : disk.walk location (parts.filter fun part => !Path.isIdle part) = .ok place)
    (hdirectory : disk.root.occupant? place = some .directory) : disk.walk location parts = .ok place := by
  induction parts generalizing location with
  | nil => exact h
  | cons part parts ih =>
    by_cases hidle : Path.isIdle part
    · rw [List.filter_cons_of_neg (by simp [hidle])] at h
      have hlocation : disk.root.occupant? location = some .directory := by
        by_cases hnil : (parts.filter fun part => !Path.isIdle part) = []
        · rw [hnil] at h
          cases h
          exact hdirectory
        · exact directory_of_walk h hnil
      obtain ⟨entries, hentries⟩ := Tree.occupant?_eq_directory.1 hlocation
      exact walk_cons_iff.2 ⟨location, step_idle hentries hidle, ih h⟩
    · rw [List.filter_cons_of_pos (by simp [hidle])] at h
      obtain ⟨next, hstep, hrest⟩ := walk_cons_iff.1 h
      exact walk_cons_iff.2 ⟨next, hstep, ih hrest⟩

end Disk

end Files

end Excerpt
