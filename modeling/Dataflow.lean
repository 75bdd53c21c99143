import Dataflow.Binary64
import Dataflow.Binary64.Shortest
import Dataflow.CommandLine.Arguments
import Dataflow.CommandLine.Run
import Dataflow.Compatibility
import Dataflow.Connection
import Dataflow.Connection.Document
import Dataflow.Decimal
import Dataflow.Diagnostic
import Dataflow.Dim
import Dataflow.Dtype
import Dataflow.Json.Basic
import Dataflow.Json.Container
import Dataflow.Json.Fault
import Dataflow.Json.Reader
import Dataflow.Json.Record
import Dataflow.Json.Scalar
import Dataflow.Json.Skip
import Dataflow.Json.Value
import Dataflow.Json.Writer
import Dataflow.Log
import Dataflow.Main
import Dataflow.Node
import Dataflow.Notation.Grammar
import Dataflow.Notation.Lexeme
import Dataflow.Notation.Reading
import Dataflow.Notation.Token
import Dataflow.Proofs.CommandLine.Arguments
import Dataflow.Proofs.CommandLine.FromFile
import Dataflow.Proofs.CommandLine.Report
import Dataflow.Proofs.CommandLine.Variadic
import Dataflow.Proofs.Compatibility
import Dataflow.Proofs.Compatibility.ByName
import Dataflow.Proofs.Compatibility.Hints
import Dataflow.Proofs.Compatibility.Observed
import Dataflow.Proofs.Compatibility.Relaxed
import Dataflow.Proofs.Compatibility.Resolved
import Dataflow.Proofs.Compatibility.Symmetry
import Dataflow.Proofs.Connection.Document
import Dataflow.Proofs.Connection.InFull
import Dataflow.Proofs.Connection.Members
import Dataflow.Proofs.Connection.Outline
import Dataflow.Proofs.Connection.Verdict
import Dataflow.Proofs.Decimal
import Dataflow.Proofs.Dtype
import Dataflow.Proofs.Json.Basic
import Dataflow.Proofs.Json.Container
import Dataflow.Proofs.Json.Page
import Dataflow.Proofs.Json.Reader
import Dataflow.Proofs.Json.Record
import Dataflow.Proofs.Json.Scalar
import Dataflow.Proofs.Node
import Dataflow.Proofs.Node.Assignment
import Dataflow.Proofs.Node.Reread
import Dataflow.Proofs.Notation.Derivation
import Dataflow.Proofs.Notation.Ellipsis
import Dataflow.Proofs.Notation.Gap
import Dataflow.Proofs.Notation.Longest
import Dataflow.Proofs.Notation.Partition
import Dataflow.Proofs.Notation.Printing
import Dataflow.Proofs.Notation.Reading
import Dataflow.Proofs.Notation.Scan
import Dataflow.Proofs.Notation.Viable
import Dataflow.Proofs.Resolution
import Dataflow.Proofs.Resolution.Repair
import Dataflow.Proofs.Resolution.Settings
import Dataflow.Proofs.Resolution.Sizes
import Dataflow.Proofs.Resolution.Validation
import Dataflow.Proofs.Spec.Json
import Dataflow.Proofs.Spec.Reread
import Dataflow.Proofs.Text.Blank
import Dataflow.Proofs.Text.Span
import Dataflow.Proofs.Traversal
import Dataflow.Resolution
import Dataflow.SortedMap
import Dataflow.Spec
import Dataflow.Spec.Json
import Dataflow.Terminal
import Dataflow.Text.Blank
import Dataflow.Text.Hidden
import Dataflow.Text.Quoted
import Dataflow.Text.Span
