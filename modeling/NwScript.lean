/-
# NwScript: reading and writing analyzed game scripts

NWScript bytecode that has been decoded and analyzed comes as a graph of
instructions, blocks, subroutines and variables. This library reads such a graph
from a dump, checks it, and writes it as a listing, as an assembly, as a
flowchart or as source text.
-/

import NwScript.CommandLine.Arguments
import NwScript.CommandLine.Device
import NwScript.CommandLine.Directory
import NwScript.CommandLine.Help
import NwScript.CommandLine.Path
import NwScript.CommandLine.Refusal
import NwScript.CommandLine.Run
import NwScript.Decimal.Binary32
import NwScript.Decimal.Shortest
import NwScript.Dump.Codec
import NwScript.Dump.Names
import NwScript.Error
import NwScript.Event
import NwScript.Flowchart.Dot
import NwScript.Flowchart.Graph
import NwScript.Flowchart.Partition
import NwScript.Game
import NwScript.Graph.Basic
import NwScript.Graph.Id
import NwScript.Graph.SiblingSet
import NwScript.Graph.Obligation
import NwScript.Instruction.Constant
import NwScript.Instruction.Text
import NwScript.Json.Codec
import NwScript.Json.Fault
import NwScript.Json.Numeral
import NwScript.Json.Reader
import NwScript.Json.Record
import NwScript.Json.Tree
import NwScript.Json.Value
import NwScript.Json.Variant
import NwScript.Linear.Entry
import NwScript.Linear.Layout
import NwScript.Linear.Writer
import NwScript.Main
import NwScript.Naming.Basic
import NwScript.Naming.Label
import NwScript.Naming.Signature
import NwScript.Opcode
import NwScript.OperandType
import NwScript.Options
import NwScript.Rendering
import NwScript.Script
import NwScript.Sink
import NwScript.Source.Statement
import NwScript.Source.Program
import NwScript.Source.Visit
import NwScript.Source.Walk
import NwScript.Text.CaseTable
import NwScript.Text.CodeRanges
import NwScript.Text.Digits
import NwScript.Text.LowerCase
import NwScript.Text.Padding
import NwScript.Text.PictureTable
import NwScript.Text.Quoted
import NwScript.Text.Shown
import NwScript.Text.Utf8
import NwScript.Transcript
import NwScript.Proofs.Json.Spelling
import NwScript.Proofs.Json.Acceptance
import NwScript.Proofs.Json.Writing
import NwScript.Proofs.Json.Codec
import NwScript.Proofs.Dump.RoundTrip
import NwScript.Proofs.Graph.WellFormed
import NwScript.Proofs.Resolution.Names
import NwScript.Proofs.Resolution.Forms
import NwScript.Proofs.Source.Text
import NwScript.Proofs.Source.Outline
import NwScript.Proofs.Resolution.Source
import NwScript.Proofs.Delivery
import NwScript.Proofs.Source.Completeness
import NwScript.Proofs.Source.Reachability
import NwScript.Proofs.Flowchart.Partition
import NwScript.Proofs.Graph.Violation
import NwScript.Proofs.Source.Owners
import NwScript.Proofs.Source.Paths
import NwScript.Proofs.Rendering
import NwScript.Proofs.Source.Flow
import NwScript.Proofs.Text.Quoted
import NwScript.Proofs.Text.Alphabet
import NwScript.Proofs.Text.LineFeed
import NwScript.Proofs.Naming.MadeUp
import NwScript.Proofs.Text.Digits
import NwScript.Proofs.Flowchart.Clusters
import NwScript.Proofs.Flowchart.Statements
import NwScript.Proofs.Flowchart.Label
import NwScript.Proofs.Flowchart.Edges
import NwScript.Proofs.Flowchart.Slices
import NwScript.Proofs.Graph.Ownership
import NwScript.Proofs.Instruction.Alphabet
import NwScript.Proofs.Instruction.Lines
import NwScript.Proofs.Lines
import NwScript.Proofs.Naming.Callee
import NwScript.Proofs.Passes.Names
import NwScript.Proofs.Passes.Forms
import NwScript.Proofs.Source.Nesting
import NwScript.Proofs.Source.Indentation
import NwScript.Proofs.Source.Returns
import NwScript.Proofs.Source.Depth
import NwScript.Proofs.Source.Layout
import NwScript.Proofs.CommandLine.Arguments
import NwScript.Proofs.CommandLine.Directory
import NwScript.Proofs.CommandLine.Agreement
import NwScript.Proofs.Json.Editing
import NwScript.Proofs.Dump.Editing
import NwScript.Proofs.Passes.Annotations
import NwScript.Proofs.Linear.Parts
import NwScript.Proofs.Linear.Encoding
import NwScript.Proofs.Instruction.Constant
import NwScript.Proofs.Decimal.Rounding
import NwScript.Proofs.Decimal.Shortest
import NwScript.Proofs.Decimal.Literal
import NwScript.Proofs.Instruction.FloatingPoint
import NwScript.Proofs.Flowchart.Quoting
