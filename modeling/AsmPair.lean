import AsmPair.Files.Volume
import AsmPair.Main
import AsmPair.Proofs.Comparison.Alignment
import AsmPair.Proofs.Comparison.Exhaustion
import AsmPair.Proofs.Comparison.Frame
import AsmPair.Proofs.Comparison.Locality
import AsmPair.Proofs.Comparison.Replay
import AsmPair.Proofs.Comparison.Waits
import AsmPair.Proofs.Module.Labels
import AsmPair.Proofs.Module.Listing
import AsmPair.Proofs.Spelling.Direction
import AsmPair.Proofs.Spelling.ImpliedSize
import AsmPair.Proofs.Spelling.Precedence
import AsmPair.Proofs.Text.Lowering
import AsmPair.Proofs.Line.Canonical
import AsmPair.Proofs.Line.Extent
import AsmPair.Proofs.Line.Noise
import AsmPair.Proofs.Line.Relisting
import AsmPair.Proofs.Module.Generation
import AsmPair.Proofs.Catalog.Building
import AsmPair.Proofs.Module.Naming
import AsmPair.Proofs.Module.Shards
import AsmPair.Proofs.Files.Volume
import AsmPair.Proofs.Cli.Generating
import AsmPair.Proofs.Cli.Writing
import AsmPair.Proofs.Settings.LastWins
import AsmPair.Proofs.Cli.Verifying
import AsmPair.Proofs.Module.Odometer
import AsmPair.Proofs.Catalog.Lookup
import AsmPair.Proofs.Report.Columns
import AsmPair.Proofs.Report.Content
