import SourcePrep.Main
import SourcePrep.Proofs.CycleDetection
import SourcePrep.Proofs.DirectiveLines
import SourcePrep.Proofs.DocumentAlgebra
import SourcePrep.Proofs.EarlyStop
import SourcePrep.Proofs.ExpandedDocuments
import SourcePrep.Proofs.ExpansionFaults
import SourcePrep.Proofs.FailedLoads
import SourcePrep.Proofs.FileIdentity
import SourcePrep.Proofs.FirstRequests
import SourcePrep.Proofs.InclusionDepth
import SourcePrep.Proofs.JsonReports
import SourcePrep.Proofs.LetterMacros
import SourcePrep.Proofs.LinePositions
import SourcePrep.Proofs.LoaderInvariants
import SourcePrep.Proofs.MeasuredRenderings
import SourcePrep.Proofs.NormalizedFiles
import SourcePrep.Proofs.OffsetTable
import SourcePrep.Proofs.OutputFiles
import SourcePrep.Proofs.ReadText
import SourcePrep.Proofs.Renderings
import SourcePrep.Proofs.RepeatedRemainders
import SourcePrep.Proofs.ReplacedRegions
import SourcePrep.Proofs.Rereading
import SourcePrep.Proofs.RootIndependence
import SourcePrep.Proofs.SharedSettings
import SourcePrep.Proofs.Slices
import SourcePrep.Proofs.SubstitutionStates
import SourcePrep.Proofs.TemplateReading
import SourcePrep.Proofs.TextExpansion
import SourcePrep.Proofs.WriterAnswers
