import Statechart.Number.Shortest
import Statechart.Text.Blank
import Statechart.Text.Digits
import Statechart.Text.Letters
import Statechart.Text.Printable
import Statechart.Value.Table
import Statechart.Value.Literal
import Statechart.Event
import Statechart.Failure.Parts
import Statechart.Value.Arithmetic
import Statechart.Text.Template
import Statechart.Action
import Statechart.Machine.Build
import Statechart.Machine.Transition
import Statechart.Formula
import Statechart.Registry
import Statechart.Token
import Statechart.Service.Step
import Statechart.Json.Reader
import Statechart.Json.Tagged
import Statechart.Json.Writer
import Statechart.Scenario
import Statechart.Scenario.Reader
import Statechart.Service.Record
import Statechart.Newsletter.Machine
import Statechart.Yaml.Document
import Statechart.Manifest.Build
import Statechart.Files.Tree
import Statechart.Toml.Document
import Statechart.Config.Basic
import Statechart.Config.Placeholder
import Statechart.Config.Section
import Statechart.Project.Configuration
import Statechart.Project.Logging
import Statechart.CommandLine.Entry
import Statechart.Bytes.Compressed
import Statechart.Http.Client
import Statechart.Http.Content
import Statechart.Http.MediaType
import Statechart.Text.Charset
import Statechart.Newsletter.Form
import Statechart.Main
import Statechart.Text.Composed
import Statechart.Proofs.Completion
import Statechart.Proofs.Failing
import Statechart.Proofs.Refinement
import Statechart.Proofs.Newsletter.Results
import Statechart.Proofs.Publication
import Statechart.Proofs.Closure
import Statechart.Proofs.Interruption
import Statechart.Proofs.Subscription
import Statechart.Proofs.Chronicle
import Statechart.Proofs.Lifecycle
import Statechart.Proofs.Compilation
import Statechart.Proofs.Loading
import Statechart.Proofs.Newsletter.Release
import Statechart.Proofs.Acceptance
import Statechart.Proofs.AfterStop
import Statechart.Proofs.Work
import Statechart.Proofs.Handlers
import Statechart.Proofs.Overrides
import Statechart.Proofs.Spelling
import Statechart.Proofs.Guard
import Statechart.Proofs.Callables
import Statechart.Proofs.Newsletter.Contents
import Statechart.Proofs.Violation
import Statechart.Proofs.Folding
import Statechart.Proofs.Round
import Statechart.Proofs.OneShot
import Statechart.Proofs.Expansion
import Statechart.Proofs.Mirror
import Statechart.Proofs.Tabulation
import Statechart.Proofs.Declaration
import Statechart.Proofs.Normalization
import Statechart.Proofs.Startup
import Statechart.Proofs.Newsletter.Outcome
import Statechart.Proofs.Independence
import Statechart.Proofs.Overlay
import Statechart.Proofs.Discovery
