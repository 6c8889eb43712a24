import Excerpt.Main
import Excerpt.Proofs.CodeBraces
import Excerpt.Proofs.IndexContents
import Excerpt.Proofs.Rendering
import Excerpt.Proofs.SelectorText
import Excerpt.Proofs.FoundPath
import Excerpt.Proofs.SiblingOrder
import Excerpt.Proofs.SessionMemory
import Excerpt.Proofs.Answers
import Excerpt.Proofs.Snapshot
import Excerpt.Proofs.FenceLines
import Excerpt.Proofs.Rescan
import Excerpt.Proofs.RenderedParts
import Excerpt.Proofs.MemberWalk
import Excerpt.Proofs.PieceRules
import Excerpt.Proofs.NestedSpans
import Excerpt.Proofs.WholeFile
import Excerpt.Proofs.BracePlaces
import Excerpt.Proofs.VisibleText
import Excerpt.Proofs.PlainListing
import Excerpt.Proofs.Occupants
import Excerpt.Proofs.PathWalks
import Excerpt.Proofs.PathComponents
import Excerpt.Proofs.WholeWrites
import Excerpt.Proofs.RenderRuns
import Excerpt.Proofs.MirroredOutput
import Excerpt.Proofs.OutsidePaths
import Excerpt.Proofs.SettledOutput
import Excerpt.Proofs.RegistryRuns
import Excerpt.Proofs.PathSpelling
import Excerpt.Proofs.CacheRuns
import Excerpt.Proofs.JoinedLines
import Excerpt.Proofs.TidyLines
import Excerpt.Proofs.Stub
import Excerpt.Proofs.Signature
import Excerpt.Proofs.CodeArrows
import Excerpt.Proofs.FailedLookup
import Excerpt.Proofs.NormalLines
import Excerpt.Proofs.ByteBraces
import Excerpt.Proofs.CheckedSlices
import Excerpt.Proofs.Interpolation
import Excerpt.Proofs.ChunkNormalForm
import Excerpt.Proofs.DirectiveText
import Excerpt.Proofs.FailureColumns
import Excerpt.Proofs.CanonicalTargets
import Excerpt.Proofs.WriteOutcomes
import Excerpt.Proofs.SpanOrder
import Excerpt.Proofs.ShiftedSpans
import Excerpt.Proofs.CommonIndent
import Excerpt.Proofs.LanguageTags
import Excerpt.Proofs.LeftUnion
import Excerpt.Proofs.PreorderWalk
