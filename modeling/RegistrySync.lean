import RegistrySync.Text.Blank
import RegistrySync.Text.Cut
import RegistrySync.Text.Integer
import RegistrySync.Text.Printable
import RegistrySync.Text.LetterCase
import RegistrySync.Text.Quoted
import RegistrySync.Json.Writer
import RegistrySync.Json.Reader
import RegistrySync.DomainSpec.Parse
import RegistrySync.Settings.Refresh
import RegistrySync.Fault
import RegistrySync.Act
import RegistrySync.Inspection.Daemon
import RegistrySync.Publication.Unchecked
import RegistrySync.Settings.Layers
import RegistrySync.Reconciler.Run
import RegistrySync.Reconciler.Signals
import RegistrySync.Rehearsal
import RegistrySync.EnvFile.Load
import RegistrySync.Journal.Configure
import RegistrySync.CommandLine.Options
import RegistrySync.CommandLine.Invocation
import RegistrySync.CommandLine.Program
import RegistrySync.Main
import RegistrySync.Proofs.Reconciler.Steps
import RegistrySync.Proofs.DomainSpec.Reading
import RegistrySync.Proofs.Inspection.Declaration
import RegistrySync.Proofs.Inspection.Link
import RegistrySync.Proofs.Publication.Steps
import RegistrySync.Proofs.Reconciler.Plan
import RegistrySync.Proofs.Reconciler.Settlement
import RegistrySync.Proofs.DomainSpec.Params
import RegistrySync.Proofs.DomainSpec.Scan
import RegistrySync.Proofs.DomainSpec.RoundTrip
import RegistrySync.Proofs.Reconciler.Contribution
import RegistrySync.Proofs.Reconciler.Announcement
import RegistrySync.Proofs.Reconciler.Rounds
import RegistrySync.Proofs.Reconciler.DryRun
import RegistrySync.Proofs.DomainSpec.Concatenation
import RegistrySync.Proofs.CommandLine.Ending
import RegistrySync.Proofs.Json.Reading
import RegistrySync.Proofs.Publication.Record
import RegistrySync.Proofs.Reconciler.Survival
import RegistrySync.Proofs.Reconciler.Writes
import RegistrySync.Proofs.Json.Indented
import RegistrySync.Proofs.Json.Layout
import RegistrySync.Proofs.Json.Grammar
import RegistrySync.Proofs.Publication.Lossless
import RegistrySync.Proofs.Text.OneLine
import RegistrySync.Proofs.Settings.Refusal
import RegistrySync.Proofs.CommandLine.Steps
import RegistrySync.Proofs.CommandLine.Checking
import RegistrySync.Proofs.CommandLine.StartUp
import RegistrySync.Proofs.Reconciler.Overwriting
import RegistrySync.Proofs.Reconciler.Order
import RegistrySync.Proofs.Reconciler.Strictness
import RegistrySync.Proofs.Reconciler.Reports
import RegistrySync.Proofs.Journal.Console
import RegistrySync.Proofs.CommandLine.Visibility
import RegistrySync.Proofs.Settings.Layering
import RegistrySync.Proofs.Settings.Masking
import RegistrySync.Proofs.Text.Pattern
import RegistrySync.Proofs.DomainSpec.Position
import RegistrySync.Proofs.DomainSpec.Search
import RegistrySync.Proofs.DomainSpec.FirstFault
import RegistrySync.Proofs.Inspection.JoinedValues
import RegistrySync.Proofs.Inspection.Rejection
import RegistrySync.Proofs.DomainSpec.Provenance
import RegistrySync.Proofs.Reconciler.Merging
import RegistrySync.Proofs.CommandLine.NothingToDo
import RegistrySync.Proofs.DomainSpec.Words
import RegistrySync.Proofs.Settings.Interval
import RegistrySync.Proofs.CommandLine.Redaction
import RegistrySync.Proofs.Journal.Delivery
import RegistrySync.Proofs.Settings.Ports
import RegistrySync.Proofs.Reconciler.Names
import RegistrySync.Proofs.Reconciler.Law
import RegistrySync.Proofs.Inspection.FirstUse
import RegistrySync.Proofs.Reconciler.Nesting
import RegistrySync.Proofs.CommandLine.Interruption
