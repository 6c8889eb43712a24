import Excerpt.Proofs.MemberWalk
import Excerpt.Source.Grammar

/-!
# Where namespaces for the rest of a file can stand

The pieces that a piece of a reading is made of are read by rules that the form of its own rule mentions, whatever the
chart holds (`Reading.mentions_of_mem_pieces`). In the grammar of the sources only the top level and the conditional
regions there mention a namespace for the rest of the file, so none stands inside another declaration of a syntax tree
(`Grammar.outermost_of_file?`).
-/

namespace Excerpt

namespace Source

mutual
/-- The rules that a form mentions. -/
def Form.rules : Form → List Rule
  | .terminal _ => []
  | .rule r => [r]
  | .seq forms => Form.allRules forms
  | .choice forms => Form.allRules forms
  | .opt form => form.rules
  | .many form => form.rules

/-- The rules that one of the forms mentions. -/
def Form.allRules : List Form → List Rule
  | [] => []
  | form :: forms => form.rules ++ Form.allRules forms
end

/-! ### Places of a network -/

namespace Network
variable {net : Network} {owner : Rule} {P : Rule → Mention → Prop}

/-- The condition holds of every place: of the rule that it belongs to and of what is mentioned there. -/
structure AtPlaces (P : Rule → Mention → Prop) (net : Network) : Prop where
  size : net.owners.size = net.mentions.size
  place : ∀ place < net.mentions.size, P (net.owner place) (net.mention place)

theorem AtPlaces.none (P : Rule → Mention → Prop) : AtPlaces P none := ⟨rfl, fun _ h => absurd h (Nat.not_lt_zero _)⟩

theorem AtPlaces.congr {net' : Network} (h : net.AtPlaces P) (ho : net'.owners = net.owners)
    (hm : net'.mentions = net.mentions) : net'.AtPlaces P := by
  refine ⟨by rw [ho, hm]; exact h.size, fun place hp => ?_⟩
  rw [Network.owner, Network.mention, ho, hm]
  exact h.place place (hm ▸ hp)

theorem AtPlaces.addPlace {mention : Mention} (h : net.AtPlaces P) (hp : P owner mention) :
    (net.addPlace owner mention).1.AtPlaces P := by
  have howner : ∀ place, (net.addPlace owner mention).1.owner place =
      if place = net.mentions.size then owner else net.owner place := by
    intro place
    simp only [Network.owner, Network.addPlace, Array.getD_eq_getD_getElem?, Array.getElem?_push, h.size]
    split <;> rfl
  have hmention : ∀ place, (net.addPlace owner mention).1.mention place =
      if place = net.mentions.size then mention else net.mention place := by
    intro place
    simp only [Network.mention, Network.addPlace, Array.getD_eq_getD_getElem?, Array.getElem?_push]
    split <;> rfl
  refine ⟨by simp [Network.addPlace, h.size], fun place hlt => ?_⟩
  have hle : place < net.mentions.size + 1 := by simpa [Network.addPlace] using hlt
  rw [howner, hmention]
  split
  next => exact hp
  next hne => exact h.place place (by omega)

theorem AtPlaces.connect (h : net.AtPlaces P) (last first : List Nat) : (net.connect last first).AtPlaces P :=
  h.congr rfl rfl

mutual
theorem AtPlaces.addForm {net : Network} (hterminal : ∀ terminal, P owner (.terminal terminal)) (form : Form)
    (hrules : ∀ r ∈ form.rules, P owner (.rule r)) (h : net.AtPlaces P) :
    (Network.addForm owner net form).1.AtPlaces P := by
  cases form with
  | terminal terminal => exact h.addPlace (hterminal terminal)
  | rule r => exact h.addPlace (hrules r (List.mem_singleton_self r))
  | seq forms => exact AtPlaces.addSequence hterminal forms hrules h _
  | choice forms => exact AtPlaces.addChoice hterminal forms hrules h _
  | opt form => exact AtPlaces.addForm hterminal form hrules h
  | many form => exact (AtPlaces.addForm hterminal form hrules h).connect _ _

theorem AtPlaces.addSequence {net : Network} (hterminal : ∀ terminal, P owner (.terminal terminal)) (forms : List Form)
    (hrules : ∀ r ∈ Form.allRules forms, P owner (.rule r)) (h : net.AtPlaces P) (ends : Ends) :
    (Network.addSequence owner net ends forms).1.AtPlaces P := by
  cases forms with
  | nil => exact h
  | cons form forms =>
    obtain ⟨hform, hforms⟩ := List.forall_mem_append.1 hrules
    exact AtPlaces.addSequence hterminal forms hforms ((AtPlaces.addForm hterminal form hform h).connect _ _) _

theorem AtPlaces.addChoice {net : Network} (hterminal : ∀ terminal, P owner (.terminal terminal)) (forms : List Form)
    (hrules : ∀ r ∈ Form.allRules forms, P owner (.rule r)) (h : net.AtPlaces P) (ends : Ends) :
    (Network.addChoice owner net ends forms).1.AtPlaces P := by
  cases forms with
  | nil => exact h
  | cons form forms =>
    obtain ⟨hform, hforms⟩ := List.forall_mem_append.1 hrules
    exact AtPlaces.addChoice hterminal forms hforms (AtPlaces.addForm hterminal form hform h) _
end

/-- What a rule of the table mentions is a terminal or a rule of its form. -/
def MentionOf (rules : RuleTable) (owner : Rule) : Mention → Prop
  | .terminal _ => True
  | .rule r => ∃ form, (owner, form) ∈ rules ∧ r ∈ form.rules

theorem atPlaces_ofRules (rules : RuleTable) : (ofRules rules).AtPlaces (MentionOf rules) := by
  have hfold : ∀ (table : RuleTable) (net : Network), (∀ p ∈ table, p ∈ rules) → net.AtPlaces (MentionOf rules) →
      (table.foldl (fun net p => net.addRule p.1 p.2) net).AtPlaces (MentionOf rules) := by
    intro table
    induction table with
    | nil => exact fun net _ h => h
    | cons p table ih =>
      intro net hsub h
      obtain ⟨hp, htable⟩ := List.forall_mem_cons.1 hsub
      refine ih _ htable ?_
      have hform : (addForm p.1 net p.2).1.AtPlaces (MentionOf rules) :=
        .addForm (fun _ => trivial) p.2 (fun r hr => ⟨p.2, hp, hr⟩) h
      exact hform.congr rfl rfl
  exact hfold rules none (fun p hp => hp) (.none _)

end Network

/-! ### Pieces of a reading -/

namespace Reading
variable {reading : Reading} {places : List Nat} {origin stop place : Nat} {piece inner : Piece}

theorem mem_of_firstItem? (h : reading.firstItem? origin stop places = some place) : place ∈ places :=
  (List.mem_filter.1 (List.min?_mem h)).1

theorem mention_of_mem_piecesTo {fuel : Nat} {after : List Piece} (hplace : place ∈ places)
    (hafter : ∀ inner ∈ after, ∃ p ∈ places, reading.net.mention p = .rule inner.rule) :
    ∀ inner ∈ reading.piecesTo places origin fuel stop place after,
      ∃ p ∈ places, reading.net.mention p = .rule inner.rule := by
  induction fuel generalizing stop place after with
  | zero => exact hafter
  | succ fuel ih =>
    rw [piecesTo]
    split
    next => exact hafter
    next start _ _ =>
      extract_lets after' earlier
      have hafter' : ∀ inner ∈ after', ∃ p ∈ places, reading.net.mention p = .rule inner.rule := by
        intro inner hm
        simp only [after'] at hm
        split at hm
        next mentioned hmention =>
          rcases List.mem_cons.1 hm with rfl | hm
          · exact ⟨place, hplace, hmention⟩
          · exact hafter inner hm
        next => exact hafter inner hm
      split
      next p hp => exact ih (List.mem_filter.1 (mem_of_firstItem? hp)).1 hafter'
      next => exact hafter'

theorem mention_of_mem_pieces (h : inner ∈ reading.pieces piece) :
    ∃ place < reading.net.mentions.size,
      reading.net.owner place = piece.rule ∧ reading.net.mention place = .rule inner.rule := by
  unfold pieces at h
  dsimp only at h
  split at h
  next place hfirst =>
    have hplace : place ∈ reading.placesOf piece.rule := (List.mem_filter.1 (mem_of_firstItem? hfirst)).1
    obtain ⟨p, hp, hmention⟩ := mention_of_mem_piecesTo hplace (fun _ hm => absurd hm List.not_mem_nil) inner h
    obtain ⟨hrange, howner⟩ := List.mem_filter.1 hp
    exact ⟨p, List.mem_range.1 hrange, by simpa using howner, hmention⟩
  next => cases h

/-- A piece inside another one is read by a rule that the form of the other one's rule mentions. -/
theorem mentions_of_mem_pieces {rules : RuleTable} (hnet : reading.net = .ofRules rules)
    (h : inner ∈ reading.pieces piece) : ∃ form, (piece.rule, form) ∈ rules ∧ inner.rule ∈ form.rules := by
  obtain ⟨place, hlt, howner, hmention⟩ := mention_of_mem_pieces h
  rw [hnet] at hlt howner hmention
  have hp := (Network.atPlaces_ofRules rules).place place hlt
  rw [howner, hmention] at hp
  exact hp

theorem mem_nodes_succ {fuel : Nat} {node : Node} (h : node ∈ reading.nodes (fuel + 1) piece) :
    (∃ kind span, piece.rule.role = .leaf kind ∧ node = .leaf kind span) ∨
      (piece.rule.role = .through ∧ node ∈ (reading.pieces piece).flatMap (reading.nodes fuel)) ∨
      ∃ kind span, piece.rule.role = .branch kind ∧
        node = .mk kind span ((reading.pieces piece).flatMap (reading.nodes fuel)) := by
  unfold nodes at h
  cases hrole : piece.rule.role with
  | passed =>
    simp only [hrole] at h
    cases h
  | leaf kind =>
    simp only [hrole] at h
    exact .inl ⟨kind, _, rfl, List.mem_singleton.1 h⟩
  | through =>
    simp only [hrole] at h
    exact .inr (.inl ⟨rfl, h⟩)
  | branch kind =>
    simp only [hrole] at h
    exact .inr (.inr ⟨kind, _, rfl, List.mem_singleton.1 h⟩)

end Reading

/-! ### The grammar of the sources -/

namespace Rule

/-- Whether a piece that is read by the rule can hold a namespace for the rest of the file, or is one. -/
def isOuter : Rule → Bool
  | .file | .topLevelItem | .topLevelRegion | .topLevelElse | .topLevelElif | .namespaceLine => true
  | _ => false

variable {rule : Rule} {kind : NodeKind}

theorem isOuter_of_role (h : rule.role = .branch .namespaceLine) : rule.isOuter := by
  cases rule <;> cases h
  rfl

theorem role_ne_leaf_namespaceLine (rule : Rule) : rule.role ≠ .leaf .namespaceLine := by
  cases rule <;> exact nofun

theorem isDeclaration_of_isOuter (h : rule.isOuter) (hne : rule ≠ .namespaceLine) (hrole : rule.role = .branch kind) :
    kind.isDeclaration = false := by
  cases rule <;> cases h <;> cases hrole
  case namespaceLine => exact absurd rfl hne
  all_goals rfl

end Rule

namespace Grammar

theorem net_reading (source : Text) (columns : Array Column) : (reading source columns).net = network := by
  rw [reading]

variable {reading : Reading} {piece inner : Piece} {fuel : Nat}

-- Statements can hold top-level regions as well, but no node is made of them.
theorem isOuter_of_mentions : ∀ p ∈ rules, p.1.role ≠ .passed → ∀ r ∈ p.2.rules, r.isOuter →
    p.1.isOuter ∧ p.1 ≠ .namespaceLine := by
  decide +kernel

theorem isOuter_of_mem_pieces (hnet : reading.net = network) (h : inner ∈ reading.pieces piece)
    (hrole : piece.rule.role ≠ .passed) (hinner : inner.rule.isOuter) :
    piece.rule.isOuter ∧ piece.rule ≠ .namespaceLine := by
  obtain ⟨form, hform, hmem⟩ := Reading.mentions_of_mem_pieces hnet h
  exact isOuter_of_mentions _ hform hrole _ hmem hinner

theorem kind_ne_namespaceLine (hnet : reading.net = network) (hrule : piece.rule.isOuter = false) :
    ∀ node ∈ reading.nodes fuel piece, node.Everywhere fun inner => inner.kind ≠ .namespaceLine := by
  induction fuel generalizing piece with
  | zero => exact fun node hm => absurd hm List.not_mem_nil
  | succ fuel ih =>
    have hinside : piece.rule.role ≠ .passed → ∀ node ∈ (reading.pieces piece).flatMap (reading.nodes fuel),
        node.Everywhere fun inner => inner.kind ≠ .namespaceLine := by
      intro hrole node hm
      obtain ⟨inner, hinner, hm⟩ := List.mem_flatMap.1 hm
      refine ih (Bool.eq_false_iff.2 fun houter => ?_) node hm
      rw [(isOuter_of_mem_pieces hnet hinner hrole houter).1] at hrule
      cases hrule
    intro node hm
    rcases Reading.mem_nodes_succ hm with ⟨kind, span, hrole, rfl⟩ | ⟨hrole, hm⟩ | ⟨kind, span, hrole, rfl⟩
    · refine .mk ?_ fun child hc => absurd hc List.not_mem_nil
      rintro (rfl : kind = .namespaceLine)
      exact piece.rule.role_ne_leaf_namespaceLine hrole
    · exact hinside (by rw [hrole]; decide) node hm
    · refine .mk ?_ (hinside (by rw [hrole]; exact nofun))
      rintro (rfl : kind = .namespaceLine)
      rw [Rule.isOuter_of_role hrole] at hrule
      cases hrule

theorem outermost_nodes (hnet : reading.net = network) (fuel : Nat) (piece : Piece) :
    ∀ node ∈ reading.nodes fuel piece, node.Everywhere Node.Outermost := by
  induction fuel generalizing piece with
  | zero => exact fun node hm => absurd hm List.not_mem_nil
  | succ fuel ih =>
    have hinside : ∀ node ∈ (reading.pieces piece).flatMap (reading.nodes fuel), node.Everywhere Node.Outermost := by
      intro node hm
      obtain ⟨inner, -, hm⟩ := List.mem_flatMap.1 hm
      exact ih inner node hm
    intro node hm
    rcases Reading.mem_nodes_succ hm with ⟨kind, span, -, rfl⟩ | ⟨-, hm⟩ | ⟨kind, span, hrole, rfl⟩
    · exact .mk (fun _ child hc => absurd hc List.not_mem_nil) fun child hc => absurd hc List.not_mem_nil
    · exact hinside node hm
    · refine .mk (fun hkind child hc _ => ?_) hinside
      obtain ⟨inner, hinner, hc⟩ := List.mem_flatMap.1 hc
      refine kind_ne_namespaceLine hnet (Bool.eq_false_iff.2 fun houter => ?_) child hc
      -- only a file or a region holds such a piece, and neither declares anything
      obtain ⟨hpiece, hne⟩ := isOuter_of_mem_pieces hnet hinner (by rw [hrole]; exact nofun) houter
      have hkind' : kind.isDeclaration := hkind
      rw [Rule.isDeclaration_of_isOuter hpiece hne hrole] at hkind'
      cases hkind'

/-- In the syntax tree of a source no namespace for the rest of the file stands among the members of a declaration. -/
theorem outermost_of_file? {source : Text} {file : Node} (h : file? source = some file) :
    file.Everywhere Node.Outermost := by
  unfold file? at h
  obtain ⟨stop, -, hfile⟩ := Option.map_eq_some_iff.1 h
  rw [← hfile]
  refine Node.Everywhere.mk_iff.2 ⟨?_, fun node hm => ?_⟩
  · rintro (hkind : NodeKind.isDeclaration .file)
    cases hkind
  · obtain ⟨piece, -, hm⟩ := List.mem_flatMap.1 hm
    exact outermost_nodes (net_reading source _) _ piece node hm

end Grammar

end Source

end Excerpt
