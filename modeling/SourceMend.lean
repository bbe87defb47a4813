import SourceMend.Catalog.Builtin
import SourceMend.Report.Listing
import SourceMend.Run
import SourceMend.Run.Verification
import SourceMend.Main
import SourceMend.Proofs.Run.Effect
import SourceMend.Proofs.Run.Backups
import SourceMend.Proofs.Run.Preview
import SourceMend.Proofs.Run.Accounting
import SourceMend.Proofs.Run.Checker
import SourceMend.Proofs.Run.Independence
import SourceMend.Proofs.Run.Order
import SourceMend.Proofs.Builtin.Settling
import SourceMend.Proofs.Builtin.Tidying
import SourceMend.Proofs.Run.Degraded
import SourceMend.Proofs.Cli.Exit
import SourceMend.Proofs.Diagnostic.Transcript
import SourceMend.Proofs.Step.Failure
import SourceMend.Proofs.Report.Fixes
import SourceMend.Proofs.Run.Split
import SourceMend.Proofs.Run.Skipping
import SourceMend.Proofs.Run.Fixes
import SourceMend.Proofs.Run.Selection
import SourceMend.Proofs.Builtin.Annotations
import SourceMend.Proofs.Backup.Write
import SourceMend.Proofs.Diff.Groups
import SourceMend.Proofs.Settings.Root
import SourceMend.Proofs.Diagnostic.Summary
import SourceMend.Proofs.Run.Names
