/-
# Events

While a script is read and written, the library reports what it does and what it
leaves out. Each report is an `Event`; its severity and its text are functions
of it.
-/

import NwScript.Error
import NwScript.Options

namespace NwScript

/-- How much attention an event deserves. -/
inductive Severity
  | trace
  | debug
  | warn
  deriving DecidableEq

/-- The name of a severity. -/
def Severity.name : Severity → String
  | trace => "TRACE"
  | debug => "DEBUG"
  | warn => "WARN"

/-- What can be reported. -/
inductive Event
  /-- A rendering begins. -/
  | rendering (options : RenderOptions)
  /-- An analysis was asked for that the dump does not carry. -/
  | dumpLacks (pass : Pass)
  /-- Stack boxes were asked for, but no stack is known. -/
  | stackOmitted
  /-- A listing or an assembly is complete. -/
  | wroteLinear (instructions : Nat) (style : LinearStyle)
  /-- A graph is complete. -/
  | wroteGraph (blocks subRoutines : Nat)
  /-- A source text is complete. -/
  | wroteSource (subRoutines globals : Nat)
  /-- An instruction is left out of the source text. -/
  | noStatementForm (address : UInt32) (opcode : Opcode)
  /-- A control structure is left out of the source text. -/
  | notReconstructed (address : UInt32) (kind : ControlType)
  /-- A block is left out where it stands inside itself. -/
  | alreadyOpen (address : UInt32)
  deriving DecidableEq

namespace Event

/-- How much attention the event deserves. -/
def severity : Event → Severity
  | dumpLacks _ | stackOmitted => .warn
  | noStatementForm .. | notReconstructed .. => .trace
  | rendering _ | wroteLinear .. | wroteGraph .. | wroteSource .. | alreadyOpen _ => .debug

/-- The options of a rendering as a record. -/
def optionsText (options : RenderOptions) : String :=
  "RenderOptions \x7b format: " ++ options.format.name ++
    ", print_stack: " ++ toString options.printStack ++
    ", print_control_types: " ++ toString options.printControlTypes ++ " \x7d"

/-- What the event says, with its particulars as named fields. -/
def message : Event → String
  | rendering options => "rendering options=" ++ optionsText options
  | dumpLacks pass => "dump carries no " ++ pass.name ++ " analysis"
  | stackOmitted => "no stack analysis, omitting stack boxes"
  | wroteLinear instructions style =>
      "wrote linear output instructions=" ++ toString instructions ++ " style=" ++ style.name
  | wroteGraph blocks subRoutines =>
      "wrote dot graph blocks=" ++ toString blocks ++ " subroutines=" ++ toString subRoutines
  | wroteSource subRoutines globals =>
      "wrote nss subroutines=" ++ toString subRoutines ++ " globals=" ++ toString globals
  | noStatementForm address opcode =>
      "no statement form address=" ++ toString address ++ " opcode=" ++ opcode.name
  | notReconstructed address kind =>
      "control structure not reconstructed address=" ++ toString address ++
        " kind=" ++ kind.name
  | alreadyOpen address => "block already open, skipping address=" ++ toString address

/-- The line that reports the event. -/
def text (event : Event) : String :=
  event.severity.name ++ " " ++ event.message

end Event

end NwScript
