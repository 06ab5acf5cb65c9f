import ExportAudit.Main
import ExportAudit.Proofs.Report.ValidateOutcome
import ExportAudit.Proofs.Usage.WalkUses
import ExportAudit.Proofs.Export.Concatenation
import ExportAudit.Proofs.Usage.Located
import ExportAudit.Proofs.Analysis.Measurement
import ExportAudit.Proofs.Dump.PrintedLocation
import ExportAudit.Proofs.Dump.PrintedNode
import ExportAudit.Proofs.Usage.Elision
import ExportAudit.Proofs.Text.Chain
import ExportAudit.Proofs.Export.CanonicalModule
import ExportAudit.Proofs.Export.StatementGrammar
import ExportAudit.Proofs.Export.Extractors
import ExportAudit.Proofs.Export.Provenance
import ExportAudit.Proofs.Usage.Concatenation
import ExportAudit.Proofs.Analysis.Account
import ExportAudit.Proofs.Analysis.Gaps
import ExportAudit.Proofs.Config.RoundTrip
import ExportAudit.Proofs.Export.SlidingWindow
import ExportAudit.Proofs.Usage.LineEndings
import ExportAudit.Proofs.Usage.ChainCount
import ExportAudit.Proofs.Config.Ascent
import ExportAudit.Proofs.Machine.Resolution
import ExportAudit.Proofs.Config.RelativeStart
import ExportAudit.Proofs.Usage.Replay
import ExportAudit.Proofs.Export.DeclarationLine
import ExportAudit.Proofs.Export.Lockstep
import ExportAudit.Proofs.Export.WiderWindow
import ExportAudit.Proofs.Export.Noise
import ExportAudit.Proofs.Analysis.NarrowWindow
import ExportAudit.Proofs.Dump.PrintedTree
import ExportAudit.Proofs.Export.ImportableName
import ExportAudit.Proofs.Usage.Independence
import ExportAudit.Proofs.Usage.ChargedCalls
import ExportAudit.Proofs.Reconciliation.Partition
import ExportAudit.Proofs.CommandLine.Preflight
import ExportAudit.Proofs.Usage.TypeSpelling
import ExportAudit.Proofs.Config.PartialFile
import ExportAudit.Proofs.Export.Ownership
import ExportAudit.Proofs.Analysis.TestFiles
import ExportAudit.Proofs.Report.IssueOrder
import ExportAudit.Proofs.Report.Color
import ExportAudit.Proofs.Analysis.Evidence
