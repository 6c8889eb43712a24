import Excerpt.Proofs.FoundPath
import Mathlib.Data.List.Basic

/-!
# Spellings of a path

`Path.Same` relates paths that differ in idle parts only: a repeated slash, a dot between two slashes or at the end, a
slash at the end. It is the least equivalence with these rules, which say nothing of a leading dot or of double dots.
`same_iff` says that it is equality of components. Each rule keeps the components, and the rules take every path to the
one that its components spell (`same_ofComponents`).
-/

namespace Excerpt

namespace Path
variable {p q r : Text} {parts rest : List Text}

/-- The paths are spellings of one another. -/
inductive Same : Text → Text → Prop
  | refl (p : Text) : Same p p
  | symm {p q : Text} (h : Same p q) : Same q p
  | trans {p q r : Text} (h : Same p q) (h' : Same q r) : Same p r
  | slashTwice (p q : Text) : Same (p ++ '/' :: '/' :: q) (p ++ '/' :: q)
  | innerDot (p q : Text) : Same (p ++ '/' :: '.' :: '/' :: q) (p ++ '/' :: q)
  | lastDot (p : Text) : Same (p ++ ['/', '.']) (p ++ ['/'])
  | lastSlash {p : Text} (h : p ≠ []) : Same (p ++ ['/']) p

/-! ### The rules keep the components -/

theorem isAbsolute_append (h : p ≠ []) (q : Text) : isAbsolute (p ++ q) = isAbsolute p := by
  obtain ⟨c, p, rfl⟩ := List.exists_cons_of_ne_nil h
  rfl

theorem components_congr (habsolute : isAbsolute p = isAbsolute q)
    (hhead : (p.split '/').head? = (q.split '/').head?)
    (hnames : ((p.split '/').filter fun part => !isIdle part) = (q.split '/').filter fun part => !isIdle part) :
    components p = components q := by
  unfold components
  dsimp only
  rw [habsolute, hhead, hnames]

theorem components_append_slash (p : Text) {u v : Text}
    (h : ((u.split '/').filter fun part => !isIdle part) = (v.split '/').filter fun part => !isIdle part) :
    components (p ++ '/' :: u) = components (p ++ '/' :: v) := by
  have hne := Text.split_ne_nil '/' p
  refine components_congr ?_ ?_ ?_
  · cases p <;> rfl
  · rw [Text.split_append_cons, Text.split_append_cons, List.head?_append_of_ne_nil _ hne,
      List.head?_append_of_ne_nil _ hne]
  · rw [Text.split_append_cons, Text.split_append_cons, List.filter_append, List.filter_append, h]

theorem Same.components_eq (h : Same p q) : components p = components q := by
  induction h with
  | refl p => rfl
  | symm _ ih => exact ih.symm
  | trans _ _ ih ih' => exact ih.trans ih'
  | slashTwice p q => exact components_append_slash p rfl
  | innerDot p q => exact components_append_slash p rfl
  | lastDot p => exact components_append_slash p rfl
  | @lastSlash p h =>
    have hsplit : Text.split '/' (p ++ ['/']) = Text.split '/' p ++ [[]] := Text.split_append_cons p []
    refine components_congr (isAbsolute_append h _) ?_ ?_
    · rw [hsplit, List.head?_append_of_ne_nil _ (Text.split_ne_nil '/' p)]
    · rw [hsplit, List.filter_append]
      exact List.append_nil _

/-! ### The rules lead to the path that the components spell -/

/-- The parts, each after a slash. -/
def slashed (parts : List Text) : Text := parts.flatMap fun part => '/' :: part

theorem slashed_cons (part : Text) (parts : List Text) : slashed (part :: parts) = '/' :: part ++ slashed parts := rfl

theorem joinWith_cons (part : Text) (parts : List Text) :
    Text.joinWith ['/'] (part :: parts) = part ++ slashed parts := by
  induction parts generalizing part with
  | nil => exact (List.append_nil part).symm
  | cons next parts ih =>
    rw [Text.joinWith, ih, slashed_cons, List.append_assoc]
    · rfl
    · exact List.cons_ne_nil _ _

theorem eq_of_split {first : Text} (h : p.split '/' = first :: rest) : p = first ++ slashed rest := by
  induction p generalizing first rest with
  | nil =>
    cases h
    rfl
  | cons c p ih =>
    obtain ⟨part, parts, hp⟩ := List.exists_cons_of_ne_nil (Text.split_ne_nil '/' p)
    rw [Text.split, hp] at h
    split at h
    next hc =>
      cases h
      rw [hc, List.nil_append, slashed_cons, List.cons_append, ← ih hp]
    next =>
      cases h
      rw [List.cons_append, ← ih hp]

theorem eq_of_isIdle {part : Text} (h : isIdle part = true) : part = [] ∨ part = dot := by
  simpa [isIdle] using h

/-- An idle part can be left out if another part follows. -/
theorem same_skip {part : Text} (h : isIdle part = true) (p next : Text) (parts : List Text) :
    Same (p ++ slashed (part :: next :: parts)) (p ++ slashed (next :: parts)) := by
  rcases eq_of_isIdle h with rfl | rfl
  · exact .slashTwice p (next ++ slashed parts)
  · exact .innerDot p (next ++ slashed parts)

theorem same_slash {part : Text} (h : isIdle part = true) (p : Text) : Same (p ++ slashed [part]) (p ++ ['/']) := by
  rcases eq_of_isIdle h with rfl | rfl
  · exact .refl _
  · exact .lastDot p

theorem same_filter (h : p ≠ []) (parts : List Text) :
    Same (p ++ slashed parts) (p ++ slashed (parts.filter fun part => !isIdle part)) := by
  induction parts generalizing p with
  | nil => exact .refl _
  | cons part parts ih =>
    by_cases hidle : isIdle part = true
    · rw [List.filter_cons_of_neg (by simpa using hidle)]
      cases parts with
      | nil =>
        refine (same_slash hidle p).trans ?_
        simpa [slashed] using Same.lastSlash h
      | cons next parts => exact (same_skip hidle p next parts).trans (ih h)
    · rw [List.filter_cons_of_pos (by simpa using hidle), slashed_cons, slashed_cons, ← List.append_assoc,
        ← List.append_assoc]
      exact ih (List.append_ne_nil_of_left_ne_nil h _)

/-- The same after the root, which keeps its slash. -/
theorem same_root (parts : List Text) (h : parts ≠ []) :
    Same (slashed parts) ('/' :: Text.joinWith ['/'] (parts.filter fun part => !isIdle part)) := by
  induction parts with
  | nil => exact absurd rfl h
  | cons part parts ih =>
    by_cases hidle : isIdle part = true
    · rw [List.filter_cons_of_neg (by simpa using hidle)]
      cases parts with
      | nil => exact same_slash hidle []
      | cons next parts => exact (same_skip hidle [] next parts).trans (ih (List.cons_ne_nil _ _))
    · rw [List.filter_cons_of_pos (by simpa using hidle), joinWith_cons, slashed_cons]
      exact same_filter (List.cons_ne_nil _ _) parts

theorem same_ofComponents (p : Text) : Same p (ofComponents (components p)) := by
  obtain ⟨first, rest, hsplit⟩ := List.exists_cons_of_ne_nil (Text.split_ne_nil '/' p)
  have hp : p = first ++ slashed rest := eq_of_split hsplit
  have hslash : '/' ∉ first := Text.not_mem_of_mem_split (hsplit ▸ List.mem_cons_self)
  cases first with
  | nil =>
    cases rest with
    | nil =>
      subst hp
      exact .refl _
    | cons part parts =>
      have hcomponents : components p = rootName :: ((part :: parts).filter fun part => !isIdle part) := by
        have habsolute : isAbsolute p = true := by
          rw [hp]
          rfl
        rw [components, habsolute, if_pos rfl, hsplit]
        rfl
      rw [hcomponents, ofComponents, if_pos rfl, hp]
      exact same_root _ (List.cons_ne_nil _ _)
  | cons c first =>
    have hcomponents : components p = (c :: first) :: (rest.filter fun part => !isIdle part) := by
      have habsolute : isAbsolute p = false := by
        rw [hp]
        have hc : c ≠ '/' := fun hc => hslash (hc ▸ List.mem_cons_self)
        simp [isAbsolute, hc]
      rw [components, habsolute, hsplit]
      by_cases hdot : c :: first = dot
      · rw [hdot]
        rfl
      · have hidle : isIdle (c :: first) = false := by simpa [isIdle] using hdot
        simp [hdot, hidle]
    have hroot : c :: first ≠ rootName := by
      rintro hroot
      exact hslash (hroot ▸ List.mem_singleton.2 rfl)
    rw [hcomponents, ofComponents, if_neg hroot, joinWith_cons]
    conv => arg 1; rw [hp]
    exact same_filter (List.cons_ne_nil _ _) rest

/-- Two paths have the same components exactly if they are spellings of one another. -/
theorem same_iff : Same p q ↔ components p = components q := by
  refine ⟨Same.components_eq, fun h => ?_⟩
  have hp : Same p (ofComponents (components p)) := same_ofComponents p
  have hq : Same q (ofComponents (components p)) := h ▸ same_ofComponents q
  exact hp.trans hq.symm

instance (p q : Text) : Decidable (Same p q) := decidable_of_iff _ same_iff.symm

end Path

end Excerpt
