import Excerpt.Backend.Standard
import Excerpt.Proofs.Rescan

/-!
# Rendering a document part by part

If the first part of a document is made of whole lines and leaves no block open, the blocks of the document are those
of the two parts (`Block.cut_append`). So the parts can be rendered one after the other, the second one in the session
that the first one leaves (`render_append`); only the line numbers of its failures count from the start of the whole.
-/

namespace Excerpt

namespace Block
variable {lines : List Text}

theorem cut_append (h : ∀ block ∈ cut lines, block.ends) (lines' : List Text) :
    cut (lines ++ lines') = cut lines ++ cut lines' := by
  obtain ⟨hl, hp, -⟩ := partition_iff_forall.1 (partition_cut lines)
  obtain ⟨hl', hp', he'⟩ := partition_iff_forall.1 (partition_cut lines')
  refine (Partition.eq_cut (partition_iff_forall.2 ⟨?_, List.forall_mem_append.2 ⟨hp, hp'⟩, ?_⟩)).symm
  · rw [List.flatMap_append, hl, hl']
  · intro block hm
    -- only the last block of the second part may be left open
    rcases List.eq_nil_or_concat (cut lines') with hnil | ⟨before, last, hcut⟩
    · rw [hnil, List.append_nil] at hm
      exact h block (List.dropLast_subset _ hm)
    · have hne : cut lines' ≠ [] := by simp [hcut]
      rw [List.dropLast_append_of_ne_nil hne] at hm
      rcases List.mem_append.1 hm with hm | hm
      · exact h block hm
      · exact he' block hm

end Block

/-- The failure, found some lines further down. -/
def Failure.below (count : Nat) (failure : Failure) : Failure := { failure with line := failure.line + count }

namespace Document
variable (answers : Answers) (document : Text)

theorem failure?_add (number count : Nat) (block : Block) :
    failure? answers document (number + count) block =
      (failure? answers document number block).map (Failure.below count) := by
  cases block with
  | plain line => rfl
  | code fence first body last =>
    cases hd : isDirective fence with
    | false => simp [failure?, hd]
    | true => cases ha : answers fence <;> simp [failure?, hd, ha, Failure.below]

theorem failures_add (number count : Nat) (blocks : List Block) :
    failures answers document (number + count) blocks =
      (failures answers document number blocks).map (Failure.below count) := by
  induction blocks generalizing number with
  | nil => rfl
  | cons block rest ih =>
    have hnumber : number + count + block.lines.length = number + block.lines.length + count := by omega
    rw [failures, failures, failure?_add, hnumber, ih, List.map_append]
    cases failure? answers document number block <;> rfl

theorem failures_append (number : Nat) (blocks blocks' : List Block) :
    failures answers document number (blocks ++ blocks') =
      failures answers document number blocks ++
        failures answers document (number + (blocks.flatMap Block.lines).length) blocks' := by
  induction blocks generalizing number with
  | nil => rfl
  | cons block rest ih =>
    rw [List.cons_append, failures, ih, failures, List.append_assoc, List.flatMap_cons, List.length_append,
      Nat.add_assoc]

/-- A document can be rendered in two parts if the first one has whole lines and closes every block that it opens: the
texts follow each other, and the second part, rendered in the session that the first one leaves, adds the same failures
to the report, with line numbers that are smaller by the number of lines of the first part. -/
theorem render_append [Backend] (disk : Files.Disk) (document : Text) (session : Session) (part₁ part₂ : Text)
    (hlines : part₁.WholeLines) (hclosed : ∀ block ∈ Block.cut part₁.rawLines, block.ends) :
    let first := render disk document session part₁
    let second := render disk document first.1 part₂
    ∃ added, second.1.report = first.1.report ++ added ∧
      render disk document session (part₁ ++ part₂) =
        ({ second.1 with report := first.1.report ++ added.map (Failure.below part₁.lines.length) },
          first.2 ++ second.2) := by
  intro first second
  let directory := Path.directory? document
  let blocks₁ := Block.cut part₁.rawLines
  let blocks₂ := Block.cut part₂.rawLines
  let answers := answersOf disk directory session
  have hfirst : first = _ := render_eq disk document session part₁
  have hsecond : second = _ := render_eq disk document first.1 part₂
  -- the first part changes neither the answers nor, but for the report, what the second part leaves
  have hanswers : answersOf disk directory first.1 = answers :=
    answersOf_eq (agrees_render disk document session part₁)
  have hserve : Session.serve disk directory first.1 (blocks₂.filterMap directive?) =
      { Session.serve disk directory session ((blocks₁ ++ blocks₂).filterMap directive?) with
        report := first.1.report } := by
    rw [hfirst, List.filterMap_append, Session.serve_append]
    exact Session.serve_withReport ..
  have hcut : Block.cut (part₁ ++ part₂).rawLines = blocks₁ ++ blocks₂ := by
    rw [hlines.rawLines_append, Block.cut_append hclosed]
  have hcount : (blocks₁.flatMap Block.lines).length = part₁.lines.length := by
    rw [Block.flatMap_lines_cut, Text.lines, List.length_map]
  rw [hanswers] at hsecond
  refine ⟨failures answers document 1 blocks₂, by rw [hsecond], ?_⟩
  rw [render_eq, hcut, failures_append, hcount, failures_add, List.flatMap_append, List.flatten_append, hsecond, hserve,
    hfirst]
  simp only [List.append_assoc]
  rfl

/-- The first part of a document: a directive that succeeds, and one that fails in its fourth line. -/
def upperPart : Text := "a\r\n ```text[/f]\r\n```\r\n~~~x[/gone]\n~~~\n".toList

/-- The second part: a directive that fails and leaves its block open. -/
def lowerPart : Text := "b\n```y[/gone]\nend".toList

theorem render_append_parts :
    upperPart.WholeLines ∧ (∀ block ∈ Block.cut upperPart.rawLines, block.ends) ∧
      ∃ added, (render plainDisk ['d'] (render plainDisk ['d'] (.new .empty []) upperPart).1 lowerPart).1.report =
          (render plainDisk ['d'] (.new .empty []) upperPart).1.report ++ added ∧
        (render plainDisk ['d'] (.new .empty []) (upperPart ++ lowerPart)).1.report =
          (render plainDisk ['d'] (.new .empty []) upperPart).1.report ++ added.map (Failure.below 5) ∧
        (render plainDisk ['d'] (.new .empty []) (upperPart ++ lowerPart)).2 =
          (render plainDisk ['d'] (.new .empty []) upperPart).2 ++ "b\n```y[/gone]\nend".toList := by
  have hcut : Block.cut upperPart.rawLines =
      [.plain "a\r\n".toList,
        .code ⟨1, '`', 3, "text[/f]".toList, 4⟩ " ```text[/f]\r\n".toList [] (some "```\r\n".toList),
        .code ⟨0, '~', 3, "x[/gone]".toList, 3⟩ "~~~x[/gone]\n".toList [] (some "~~~\n".toList)] :=
    (Block.partition_iff_forall.2 (by decide)).eq_cut.symm
  have hcut' : Block.cut lowerPart.rawLines =
      [.plain "b\n".toList, .code ⟨0, '`', 3, "y[/gone]".toList, 3⟩ "```y[/gone]\n".toList ["end".toList] none] :=
    (Block.partition_iff_forall.2 (by decide)).eq_cut.symm
  have hends : ∀ block ∈ Block.cut upperPart.rawLines, block.ends := by
    rw [hcut]
    decide
  obtain ⟨added, hadded, happend⟩ :=
    render_append plainDisk ['d'] (.new .empty []) upperPart lowerPart (by decide) hends
  have hlower : (render plainDisk ['d'] (render plainDisk ['d'] (.new .empty []) upperPart).1 lowerPart).2 =
      "b\n```y[/gone]\nend".toList := by
    rw [render_eq, hcut', answersOf_eq (agrees_render ..)]
    rfl
  refine ⟨by decide, hends, added, hadded, ?_, ?_⟩
  · rw [happend]
    rfl
  · rw [happend, hlower]

end Document

end Excerpt
