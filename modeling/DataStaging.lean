import DataStaging.Agent
import DataStaging.Benchmark.Artifact
import DataStaging.Benchmark.Folder
import DataStaging.Benchmark.Metrics
import DataStaging.Benchmark.Summary
import DataStaging.CommandLine.Grammar
import DataStaging.CommandLine.Request
import DataStaging.CommandLine.Usage
import DataStaging.Defaults
import DataStaging.DomainName.Ascii
import DataStaging.DomainName.Composition
import DataStaging.DomainName.Label
import DataStaging.DomainName.Mapping
import DataStaging.DomainName.MappingTable
import DataStaging.DomainName.PairTable
import DataStaging.DomainName.PropertyTable
import DataStaging.DomainName.Punycode
import DataStaging.DomainName.Rows
import DataStaging.Fault
import DataStaging.Host.FileTree
import DataStaging.Host.Program
import DataStaging.Host.State
import DataStaging.Json.Reader
import DataStaging.Json.Record
import DataStaging.Json.Scalar
import DataStaging.Main
import DataStaging.Manifest.Entry
import DataStaging.Manifest.LinkTree
import DataStaging.Manifest.Survey
import DataStaging.Mount.Client
import DataStaging.Mount.Mounting
import DataStaging.Mount.Shared
import DataStaging.Mount.Table
import DataStaging.Notices
import DataStaging.Number.Binary64
import DataStaging.Number.Shortest
import DataStaging.Path
import DataStaging.Process.Command
import DataStaging.Process.Health
import DataStaging.Process.Retry
import DataStaging.Process.Run
import DataStaging.Proofs.Checkpoint.Severed
import DataStaging.Proofs.Checkpoint.Stranding
import DataStaging.Proofs.Checkpoint.System
import DataStaging.Proofs.Files.Components
import DataStaging.Proofs.Files.Descent
import DataStaging.Proofs.Files.Parents
import DataStaging.Proofs.Files.Steps
import DataStaging.Proofs.Files.Walk
import DataStaging.Proofs.Manifest.Containment
import DataStaging.Proofs.Manifest.Convergence
import DataStaging.Proofs.Manifest.Coverage
import DataStaging.Proofs.Manifest.Footprint
import DataStaging.Proofs.Manifest.Passes
import DataStaging.Proofs.Manifest.Places
import DataStaging.Proofs.Manifest.Recorded
import DataStaging.Proofs.Manifest.Resolution
import DataStaging.Proofs.Manifest.Surveyed
import DataStaging.Proofs.Mount.Beginnings
import DataStaging.Proofs.Mount.Folding
import DataStaging.Proofs.Mount.Mounted
import DataStaging.Proofs.Mount.Names
import DataStaging.Proofs.Mount.Table
import DataStaging.Proofs.Outcome
import DataStaging.Proofs.Pool.Account
import DataStaging.Proofs.Pool.Atomic
import DataStaging.Proofs.Pool.Progress
import DataStaging.Proofs.Pool.Rely
import DataStaging.Proofs.Pool.Sequential
import DataStaging.Proofs.Pool.System
import DataStaging.Proofs.Pool.Tasks
import DataStaging.Proofs.Pool.Verdict
import DataStaging.Proofs.Process.Accounting
import DataStaging.Proofs.Process.Attempts
import DataStaging.Proofs.Process.CalmHost
import DataStaging.Proofs.Process.Starts
import DataStaging.Proofs.Staging.Confinement
import DataStaging.Proofs.Staging.Folders
import DataStaging.Proofs.Staging.Serving
import DataStaging.Proofs.Staging.Sources
import DataStaging.Proofs.Storage.Grammar
import DataStaging.Service.Address
import DataStaging.Service.NumericHost
import DataStaging.Service.Watch
import DataStaging.Staging
import DataStaging.Storage.Credential
import DataStaging.Storage.KeyFile
import DataStaging.Storage.Locator
import DataStaging.Sync.ReportQueue
import DataStaging.Sync.Session
import DataStaging.Text.Blank
import DataStaging.Text.Digit
import DataStaging.Text.Lines
import DataStaging.Text.Parts
import DataStaging.Text.Printable
import DataStaging.Text.Quoted
import DataStaging.Text.Utf8
import DataStaging.Time.Calendar
import DataStaging.Time.Duration
import DataStaging.Transfer.Checkpoint
import DataStaging.Transfer.Mover
import DataStaging.Transfer.Stop
import DataStaging.Transfer.Transfer
import DataStaging.Proofs.Staging.Stages
import DataStaging.Proofs.Staging.Refusal
import DataStaging.Proofs.Manifest.Counts
import DataStaging.Proofs.Staging.Offers
import DataStaging.Proofs.Files.Likeness
import DataStaging.Proofs.Process.InStep
import DataStaging.Proofs.Staging.InStep
import DataStaging.Proofs.Transfer.Clocks
import DataStaging.Proofs.Staging.SamePaths
import DataStaging.Proofs.Process.Started
import DataStaging.Proofs.Staging.Errands
import DataStaging.Proofs.Staging.Secrets
import DataStaging.Proofs.Pool.Liveness
import DataStaging.Proofs.Process.Pipes
import DataStaging.Proofs.Process.Passing
import DataStaging.Proofs.Process.Outage
import DataStaging.Proofs.Process.Gating
import DataStaging.Proofs.Process.Reaching
import DataStaging.Proofs.Process.GatedRuns
import DataStaging.Proofs.Sync.Supervision
import DataStaging.Proofs.Sync.Reports
import DataStaging.Proofs.Mount.World
import DataStaging.Proofs.Mount.Rounds
import DataStaging.Proofs.Mount.Leftovers
import DataStaging.Proofs.Process.Silence
import DataStaging.Proofs.Process.Tries
import DataStaging.Proofs.Transfer.Resumption
import DataStaging.Proofs.Files.Additions
import DataStaging.Proofs.Transfer.Unreadable
import DataStaging.Proofs.Checkpoint.Flush
import DataStaging.Proofs.Pool.Balance
import DataStaging.Proofs.Manifest.NewLinks
import DataStaging.Proofs.Process.TwoForms
import DataStaging.Proofs.Mount.Requests
import DataStaging.Proofs.Process.Decoding
import DataStaging.Proofs.Process.Announcements
import DataStaging.Proofs.Manifest.Forwarding
import DataStaging.Proofs.Storage.Accepted
import DataStaging.Proofs.Benchmark.Names
import DataStaging.Proofs.Benchmark.Totals
import DataStaging.Proofs.Benchmark.Listing
import DataStaging.Proofs.Mount.Cuts
import DataStaging.Proofs.Checkpoint.Looks
import DataStaging.Proofs.Process.Sturdy
import DataStaging.Proofs.Agent.BreakDowns
import DataStaging.Proofs.Json.Numerals
import DataStaging.Proofs.Json.Forms
import DataStaging.Proofs.Json.Skipping
import DataStaging.Proofs.Benchmark.RoundTrip
