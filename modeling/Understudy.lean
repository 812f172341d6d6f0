import Understudy.CommandLine.Arguments
import Understudy.CommandLine.Run
import Understudy.Comparison
import Understudy.Content.Basic
import Understudy.Content.Fragments
import Understudy.Content.Outline
import Understudy.Decimal.Double
import Understudy.Decimal.Shortest
import Understudy.Document.Assembly
import Understudy.Document.Header
import Understudy.Document.Imports
import Understudy.Document.Layout
import Understudy.Failure
import Understudy.Files.Cause
import Understudy.Files.Change
import Understudy.Files.FileSystem
import Understudy.Files.Path
import Understudy.Files.Replacement
import Understudy.Files.Resolution
import Understudy.Files.Writing
import Understudy.Generation
import Understudy.Mock.Descriptor
import Understudy.Mock.Support
import Understudy.Mock.Template
import Understudy.Output.Buffer
import Understudy.Output.Emission
import Understudy.Output.Encodable
import Understudy.Output.Encoding
import Understudy.Output.Rules
import Understudy.Output.Sink
import Understudy.Proofs.CommandLine.DryRun
import Understudy.Proofs.CommandLine.Overriding
import Understudy.Proofs.CommandLine.Reading
import Understudy.Proofs.Comparison.Report
import Understudy.Proofs.Content.Building
import Understudy.Proofs.Content.Visiting
import Understudy.Proofs.Document.Arrangement
import Understudy.Proofs.Document.Composition
import Understudy.Proofs.Document.Header
import Understudy.Proofs.Document.Imports
import Understudy.Proofs.Files.Above
import Understudy.Proofs.Files.Agreement
import Understudy.Proofs.Files.Delivery
import Understudy.Proofs.Files.Destination
import Understudy.Proofs.Files.Filling
import Understudy.Proofs.Files.Frame
import Understudy.Proofs.Files.Grounding
import Understudy.Proofs.Files.InPlace
import Understudy.Proofs.Files.Interleaving
import Understudy.Proofs.Files.Leading
import Understudy.Proofs.Files.Likeness
import Understudy.Proofs.Files.Links
import Understudy.Proofs.Files.Names
import Understudy.Proofs.Files.Narrowing
import Understudy.Proofs.Files.Passage
import Understudy.Proofs.Files.Preservation
import Understudy.Proofs.Files.Remaking
import Understudy.Proofs.Files.Repetition
import Understudy.Proofs.Files.Room
import Understudy.Proofs.Files.Shortage
import Understudy.Proofs.Files.Stepwise
import Understudy.Proofs.Files.Temporary
import Understudy.Proofs.Files.Walking
import Understudy.Proofs.Generation.Delivery
import Understudy.Proofs.Generation.Encodings
import Understudy.Proofs.Generation.Heading
import Understudy.Proofs.Generation.Naming
import Understudy.Proofs.Generation.Order
import Understudy.Proofs.Generation.Preview
import Understudy.Proofs.Generation.Selection
import Understudy.Proofs.Generation.Units
import Understudy.Proofs.Mock.Lines
import Understudy.Proofs.Mock.Reading
import Understudy.Proofs.Output.Capacity
import Understudy.Proofs.Output.Reach
import Understudy.Proofs.Rendering.Results
import Understudy.Proofs.Rendering.Schedules
import Understudy.Proofs.Settings.Acceptance
import Understudy.Proofs.Settings.Decoding
import Understudy.Proofs.Settings.Validity
import Understudy.Proofs.Text.Ascii
import Understudy.Proofs.Text.Endings
import Understudy.Proofs.Text.Order
import Understudy.Proofs.Text.Rows
import Understudy.Proofs.Text.Trimming
import Understudy.Proofs.Toml.Keys
import Understudy.Rendering.Execution
import Understudy.Rendering.Outcome
import Understudy.Rendering.Pool
import Understudy.Settings.Basic
import Understudy.Settings.Decoding
import Understudy.Settings.Fields
import Understudy.Text.Alphanumeric
import Understudy.Text.Blank
import Understudy.Text.Bytes
import Understudy.Text.Choice
import Understudy.Text.Hidden
import Understudy.Text.Lines
import Understudy.Text.Quoted
import Understudy.Text.Ranges
import Understudy.Text.Sorted
import Understudy.Text.Split
import Understudy.Toml.Document
import Understudy.Toml.Mismatch
import Understudy.Toml.Scalar
import Understudy.Toml.Statement
import Understudy.Toml.Token
import Understudy.Toml.Value
