import Excerpt.Backend.Standard
import Excerpt.Extractor
import Excerpt.Proofs.IndexContents

/-!
# Including a whole file

A directive without a member asks for the whole file. The root of an index carries the span of the file alone, whatever
declarations were found, so an extractor that knows members gives the same excerpt as one that does not
(`select_eq_whole`).
-/

namespace Excerpt

namespace Snippet

theorem orderSpans_singleton (span : Span) : orderSpans [span] = [span] := by
  simp [orderSpans, orderSpans.dropRepeats]

theorem extractSpans_singleton (source : Text) (mode : Mode) (span : Span) :
    extractSpans source mode [span] = extractSpan source mode span := by
  simp [extractSpans, orderSpans_singleton, Text.joinWith]

end Snippet

namespace Extractor
variable {directive : Directive}

theorem select_build [Backend] (h : directive.memberPattern = []) (path source : Text)
    (declarations : List Declaration) :
    select ⟨path, source, Index.build (.ofLength source.byteLength declarations)⟩ directive =
      .ok (Snippet.extractSpan source directive.mode ⟨0, source.byteLength⟩) := by
  have hfind : (Index.build (.ofLength source.byteLength declarations)).find directive.memberPattern =
      .ok (Index.build (.ofLength source.byteLength declarations)).root := by
    rw [h]
    rfl
  have hspan : (DeclarationTree.ofLength source.byteLength declarations).span = ⟨0, source.byteLength⟩ := rfl
  rw [select, hfind]
  show Except.ok (Snippet.extractSpans source directive.mode _) = _
  rw [Index.spans_root_build, hspan, Snippet.extractSpans_singleton]

theorem whole_of_readText {disk : Files.Disk} {path source : Text} (h : directive.memberPattern = [])
    (hr : disk.readText path = .ok source) (language : Text) :
    whole disk language path directive = .ok (Snippet.extractSpan source directive.mode ⟨0, source.byteLength⟩) := by
  simp [whole, h, hr]

/-- A directive without a member, in any mode, gets the same text from an index of the file as from the file itself,
whatever declarations the index was built from. So an extractor that knows the members of sources and remembers nothing
yet answers it as one that includes files as a whole does, also if the file cannot be read. -/
theorem select_eq_whole [Backend] (h : directive.memberPattern = []) (disk : Files.Disk) (path language : Text) :
    (∀ name source declarations, disk.readText path = .ok source →
      select ⟨name, source, Index.build (.ofLength source.byteLength declarations)⟩ directive =
        whole disk language path directive) ∧
      (member disk Cache.empty path directive).2 = whole disk language path directive := by
  have hindexed : ∀ name source declarations, disk.readText path = .ok source →
      select ⟨name, source, Index.build (.ofLength source.byteLength declarations)⟩ directive =
        whole disk language path directive := by
    intro name source declarations hr
    rw [select_build h, whole_of_readText h hr]
  refine ⟨hindexed, ?_⟩
  cases hr : disk.readText path with
  | error e =>
    have hload : load disk path = .error (.unreadable path e) := by rw [load, hr]
    simp [member, Cache.fetch, Cache.get?, Cache.empty, hload, Fetched.result, whole, h, hr]
  | ok source =>
    have hload : load disk path = .ok ⟨path, source, indexOf source⟩ := by rw [load, hr]
    have hmember : (member disk Cache.empty path directive).2 = select ⟨path, source, indexOf source⟩ directive := by
      simp [member, Cache.fetch, Cache.get?, Cache.empty, hload, Fetched.result]
    exact hmember.trans (hindexed path source (Source.declarationTree source).declarations hr)

/-- A file with a class in a namespace without a name, as a declaration tree may have it. -/
def nameless : List Declaration :=
  [⟨.namespaceDecl, [], [], [], ⟨0, 9⟩, [⟨.classDecl, ['C'], [], [], ⟨0, 9⟩, []⟩]⟩]

/-- A disk with that file. -/
def namelessDisk : Files.Disk := ⟨.directory [(['f'], .file (.text "C \x7b\n  d\x7d\n".toList))], []⟩

theorem select_eq_whole_nameless :
    Directive.memberPattern ⟨[], ['f'], [], ['-'], 0⟩ = [] ∧
      namelessDisk.readText "/f".toList = .ok "C \x7b\n  d\x7d\n".toList ∧
      select ⟨['f'], "C \x7b\n  d\x7d\n".toList, Index.build (.ofLength 9 nameless)⟩ ⟨[], ['f'], [], ['-'], 0⟩ =
        whole namelessDisk [] "/f".toList ⟨[], ['f'], [], ['-'], 0⟩ ∧
      whole namelessDisk [] "/f".toList ⟨[], ['f'], [], ['-'], 0⟩ = .ok ['d'] := by
  have hr : namelessDisk.readText "/f".toList = .ok "C \x7b\n  d\x7d\n".toList := rfl
  have h : Directive.memberPattern ⟨[], ['f'], [], ['-'], 0⟩ = [] := by decide
  exact ⟨h, hr, (select_eq_whole h namelessDisk "/f".toList []).1 ['f'] _ nameless hr, rfl⟩

end Extractor

end Excerpt
