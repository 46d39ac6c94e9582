import MeshLog.Binary64.Basic
import MeshLog.Binary64.Shortest
import MeshLog.Binary64.Text
import MeshLog.Command.Arguments
import MeshLog.Command.Basic
import MeshLog.Command.Evaluate
import MeshLog.Command.Inspect
import MeshLog.Config.Basic
import MeshLog.Config.Decode
import MeshLog.Evaluation.Basic
import MeshLog.Evaluation.Column
import MeshLog.Evaluation.Summary
import MeshLog.Evaluation.Value
import MeshLog.Event.Basic
import MeshLog.Event.Neighbor
import MeshLog.Event.Queue
import MeshLog.Event.Residue
import MeshLog.Event.Timing
import MeshLog.Event.Train
import MeshLog.Files.Naming
import MeshLog.Files.Path
import MeshLog.Files.Tree
import MeshLog.LineError
import MeshLog.Main
import MeshLog.Metric.Key
import MeshLog.Metric.Line
import MeshLog.Record
import MeshLog.Registry.Basic
import MeshLog.Registry.Header
import MeshLog.Report.Json
import MeshLog.Report.Run
import MeshLog.Run.Basic
import MeshLog.Run.Failure
import MeshLog.Run.Input
import MeshLog.Run.Logs
import MeshLog.Run.Script
import MeshLog.Scan
import MeshLog.Slot.Control
import MeshLog.Slot.Epochs
import MeshLog.Slot.Sample
import MeshLog.Text.Basic
import MeshLog.Text.CharClass
import MeshLog.Text.CharClass.Digit
import MeshLog.Text.CharClass.Extending
import MeshLog.Text.CharClass.Unprintable
import MeshLog.Text.CharClass.Word
import MeshLog.Text.CodeRange
import MeshLog.Text.Integer
import MeshLog.Text.Lines
import MeshLog.Text.Quoted
import MeshLog.Text.Utf8
import MeshLog.Variant
import MeshLog.Yaml.Node
import MeshLog.Yaml.Token
import MeshLog.Proofs.Registry.Built
import MeshLog.Proofs.Record.Parts
import MeshLog.Proofs.Record.Table
import MeshLog.Proofs.Record.Samples
import MeshLog.Proofs.Scan.Entry
import MeshLog.Proofs.Scan.Log
import MeshLog.Proofs.Scan.Scope
import MeshLog.Proofs.Scan.Refusal
import MeshLog.Proofs.Scan.Session
import MeshLog.Proofs.Run.Logs
import MeshLog.Proofs.Run.Order
import MeshLog.Proofs.Run.Continuity
import MeshLog.Proofs.Run.Safety
import MeshLog.Proofs.Scan.LastPair
import MeshLog.Proofs.Scan.Continuity
import MeshLog.Proofs.Scan.Samples
import MeshLog.Proofs.Scan.Range
import MeshLog.Proofs.Run.Finite
import MeshLog.Proofs.Run.Interleaving
import MeshLog.Proofs.Binary64.Magnitude
import MeshLog.Proofs.Slot.Duration
import MeshLog.Proofs.Evaluation.Text
import MeshLog.Proofs.Evaluation.Column
import MeshLog.Proofs.Files.Naming
import MeshLog.Proofs.Run.Isolation
import MeshLog.Proofs.Scan.Carry
import MeshLog.Proofs.Slot.Elapsed
import MeshLog.Proofs.Text.Pieces
import MeshLog.Proofs.Report.Agreement
import MeshLog.Proofs.Text.Leftmost
import MeshLog.Proofs.Registry.HeaderLine
import MeshLog.Proofs.Registry.Discovery
import MeshLog.Proofs.Files.Tree
import MeshLog.Proofs.Metric.PairWalk
import MeshLog.Proofs.Run.Reports
import MeshLog.Proofs.Registry.Learned
import MeshLog.Proofs.Scan.Addresses
import MeshLog.Proofs.Run.Addresses
import MeshLog.Proofs.Slot.InForce
import MeshLog.Proofs.Slot.Announcement
import MeshLog.Proofs.Registry.Lookup
import MeshLog.Proofs.Scan.Failure
import MeshLog.Proofs.Binary64.Order
import MeshLog.Proofs.Binary64.Natural
import MeshLog.Proofs.Evaluation.Fraction
import MeshLog.Proofs.Evaluation.Pooled
import MeshLog.Proofs.Run.Counters
import MeshLog.Proofs.Event.Slotframes
import MeshLog.Proofs.Event.Layout
import MeshLog.Proofs.Event.Recording
import MeshLog.Proofs.Event.Cells
import MeshLog.Proofs.Event.Window
import MeshLog.Proofs.Event.Trains
import MeshLog.Proofs.Metric.Written
import MeshLog.Proofs.Event.Tally
import MeshLog.Proofs.Binary64.Nearest
import MeshLog.Proofs.Run.WholeLatency
import MeshLog.Proofs.Text.Utf8
import MeshLog.Proofs.Text.Stretches
import MeshLog.Proofs.Text.Lines
import MeshLog.Proofs.Run.LineNumbers
import MeshLog.Proofs.Binary64.Decimal
import MeshLog.Proofs.Event.Tiling
import MeshLog.Proofs.Text.Integer
import MeshLog.Proofs.Event.Line
import MeshLog.Proofs.Event.Queue
