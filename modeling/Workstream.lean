import Workstream.Branch.Name
import Workstream.Branch.Record
import Workstream.Collections.SortedMap
import Workstream.CommandLine.Command
import Workstream.CommandLine.Help
import Workstream.CommandLine.Invocation
import Workstream.CommandLine.Parameter
import Workstream.CommandLine.Run
import Workstream.CommandLine.Usage
import Workstream.DevelopmentStream
import Workstream.Hash.Sha256
import Workstream.Interchange
import Workstream.Interchange.Answer
import Workstream.Json
import Workstream.Log
import Workstream.Log.Directive
import Workstream.Log.Filter
import Workstream.Log.Mode
import Workstream.Log.ValuePattern
import Workstream.Log.Writer
import Workstream.Main
import Workstream.Malformed
import Workstream.Naming.Grammar
import Workstream.Naming.Kind
import Workstream.Naming.Pattern
import Workstream.Number.Binary64
import Workstream.Release.Tag
import Workstream.Resource.Patch
import Workstream.Results
import Workstream.Settings
import Workstream.Settings.Reader
import Workstream.Store.Action
import Workstream.Store.Backups
import Workstream.Store.Change
import Workstream.Store.Comparison
import Workstream.Store.Configurations
import Workstream.Store.Dependencies
import Workstream.Store.Failure
import Workstream.Store.Merge
import Workstream.Store.Project
import Workstream.Store.Projects
import Workstream.Store.Request
import Workstream.Store.Reviews
import Workstream.Store.Snapshot
import Workstream.Store.Update
import Workstream.Store.Workspaces
import Workstream.Text.Alphanumeric
import Workstream.Text.Blank
import Workstream.Text.CodePoint
import Workstream.Text.Quoted
import Workstream.Text.Segments
import Workstream.Text.Similarity
import Workstream.Text.Terminal
import Workstream.Text.Unprintable
import Workstream.Text.Utf8
import Workstream.Text.Wrapped
import Workstream.Toml.Document
import Workstream.Toml.KeyText
import Workstream.Toml.Moment
import Workstream.Toml.Numeral
import Workstream.Toml.Quotation
import Workstream.Toml.Statement
import Workstream.Toml.Trivia
import Workstream.Toml.Value
import Workstream.Version
import Workstream.Workspace.Access
import Workstream.Workspace.Id
import Workstream.Workspace.Ownership
import Workstream.Workspace.Specification
import Workstream.Proofs.Branch.Grammar
import Workstream.Proofs.Branch.RoundTrip
import Workstream.Proofs.Store.Perform
import Workstream.Proofs.Store.Atomicity
import Workstream.Proofs.Store.Integrity
import Workstream.Proofs.Store.Run
import Workstream.Proofs.Store.ThreeWay
import Workstream.Proofs.Store.UpdateOutcome
import Workstream.Proofs.Store.Resolution
import Workstream.Proofs.Store.Numbering
import Workstream.Proofs.Text.Utf8
import Workstream.Proofs.RevisionId
import Workstream.Proofs.Store.Ledger
import Workstream.Proofs.Store.Records
import Workstream.Proofs.Store.Identification
import Workstream.Proofs.Store.Chronology
import Workstream.Proofs.Store.Upstream
import Workstream.Proofs.Store.Outdated
import Workstream.Proofs.Store.Frame
import Workstream.Proofs.Store.Coupling
import Workstream.Proofs.Store.Commutation
import Workstream.Proofs.Resource.Call
import Workstream.Proofs.Store.Acknowledgement
import Workstream.Proofs.Text.ByteOrder
import Workstream.Proofs.Store.Listing
import Workstream.Proofs.Store.Isolation
import Workstream.Proofs.Resource.Isolation
import Workstream.Proofs.Register.Reference
import Workstream.Proofs.Register.Correspondence
import Workstream.Proofs.Register.Simulation
import Workstream.Proofs.Register.Equivalence
import Workstream.Proofs.Store.OpenUser
import Workstream.Proofs.Store.Charter
import Workstream.Proofs.Store.Aftermath
import Workstream.Proofs.Store.Recovery
import Workstream.Proofs.Store.Differences
import Workstream.Proofs.Store.CleanUpdate
import Workstream.Proofs.Store.CarriedDependencies
import Workstream.Proofs.Store.Undo
import Workstream.Proofs.Store.Closure
import Workstream.Proofs.Store.ChangeList
import Workstream.Proofs.VersionForm
import Workstream.Proofs.Naming.Segmentation
import Workstream.Proofs.Resource.Visibility
import Workstream.Proofs.Text.Lines
import Workstream.Proofs.Branch.Layout
import Workstream.Proofs.Branch.Records
