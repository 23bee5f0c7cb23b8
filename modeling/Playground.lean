import Playground.Http.Endpoint
import Playground.Main
import Playground.Proofs.Execution.Blame
import Playground.Proofs.Execution.CleanUp
import Playground.Proofs.Execution.Explanation
import Playground.Proofs.Execution.FirstFailure
import Playground.Proofs.Execution.Ownership
import Playground.Proofs.Execution.Paths
import Playground.Proofs.Execution.Step
import Playground.Proofs.Execution.Tools
import Playground.Proofs.Http.Answers
import Playground.Proofs.Http.Counting
import Playground.Proofs.Http.Decoders
import Playground.Proofs.Json.Message
import Playground.Proofs.Json.Refusal
import Playground.Proofs.Json.Size
import Playground.Proofs.Json.Value
import Playground.Proofs.Json.Written
import Playground.Proofs.Language
import Playground.Proofs.Machine.Attending
import Playground.Proofs.Machine.Lookup
import Playground.Proofs.Process.Capture
import Playground.Proofs.Process.Descent
import Playground.Proofs.Process.Exchange
import Playground.Proofs.Process.Timeline
import Playground.Proofs.Request
import Playground.Proofs.RoundTrip
import Playground.Proofs.Service.Admission
import Playground.Proofs.Service.Explained
import Playground.Proofs.Service.Isolation
import Playground.Proofs.Service.Omitted
import Playground.Proofs.Service.Start
import Playground.Proofs.Settings.Fields
import Playground.Proofs.Settings.Layers
import Playground.Proofs.Settings.Written
import Playground.Proofs.Source.Comments
import Playground.Proofs.Source.Counters
import Playground.Proofs.Source.Directives
import Playground.Proofs.Source.FreeShape
import Playground.Proofs.Source.Hash
import Playground.Proofs.Source.LineCount
import Playground.Proofs.Source.LineForm
import Playground.Proofs.Source.LineIdioms
import Playground.Proofs.Source.LineShape
import Playground.Proofs.Source.Lines
import Playground.Proofs.Source.LiteralContents
import Playground.Proofs.Source.Longest
import Playground.Proofs.Source.Margins
import Playground.Proofs.Source.Occurrence
import Playground.Proofs.Source.Opening
import Playground.Proofs.Source.Origin
import Playground.Proofs.Source.Places
import Playground.Proofs.Source.Returns
import Playground.Proofs.Source.Separation
import Playground.Proofs.Source.Sizes
import Playground.Proofs.Source.Stable
import Playground.Proofs.Source.Tally
import Playground.Proofs.Source.WholeWords
import Playground.Proofs.Text.Utf8
import Playground.Proofs.Toml.Scalar
import Playground.Proofs.Toml.Written
import Playground.Proofs.Workspace.Exclusive
