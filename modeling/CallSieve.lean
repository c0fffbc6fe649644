import CallSieve.Disk.Tree
import CallSieve.Hierarchy.Tree
import CallSieve.Main
import CallSieve.Proofs.Matcher.Alternatives
import CallSieve.Proofs.Matcher.Bulk
import CallSieve.Proofs.Matcher.Handles
import CallSieve.Proofs.Report.Reordering
import CallSieve.Proofs.Rules.Outcome
import CallSieve.Proofs.Rules.Table
import CallSieve.Proofs.Snapshot.Outcome
import CallSieve.Proofs.Snapshot.Pruning
import CallSieve.Proofs.Hierarchy.Trees
import CallSieve.Proofs.Json.Strings
import CallSieve.Proofs.Json.Tokens
import CallSieve.Proofs.Json.Documents
import CallSieve.Proofs.Report.RoundTrip
import CallSieve.Proofs.Report.Merging
import CallSieve.Proofs.Catalog.Selection
import CallSieve.Proofs.Command.Verdict
import CallSieve.Proofs.Disk.Reading
import CallSieve.Proofs.TypeTable.Agreement
import CallSieve.Proofs.Catalog.Combining
import CallSieve.Proofs.Catalog.Implementations
import CallSieve.Proofs.Matcher.Constructors
import CallSieve.Proofs.Snapshot.Constructors
import CallSieve.Proofs.Config.Source
import CallSieve.Proofs.Report.Lines
