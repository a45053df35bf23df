/-
# Errors

Each way in which reading or writing a script can fail is one constructor; the
wording is in `Error.message` alone.
-/

import NwScript.Graph.Basic
import NwScript.Json.Fault
import NwScript.Text.Digits

namespace NwScript

/-- Why a file or a sink could not be used. -/
inductive AccessFault
  /-- The sink accepts no more bytes. -/
  | sinkFull
  /-- The operating system refused, for a reason and with a code of its own. -/
  | refused (reason : String) (code : Nat)
  deriving DecidableEq

/-- The text of a refusal. -/
def AccessFault.message : AccessFault → String
  | sinkFull => "sink full"
  | refused reason code => reason ++ " (os error " ++ toString code ++ ")"

/-- The part that a control structure lacks. -/
inductive ControlPart
  | returnBlock
  | condition
  deriving DecidableEq

/-- The name of a missing part. -/
def ControlPart.name : ControlPart → String
  | returnBlock => "return"
  | condition => "condition"

/-- The two analyses that a dump may carry. -/
inductive Pass
  | stack
  | controlFlow
  deriving DecidableEq

/-- The name of an analysis. -/
def Pass.name : Pass → String
  | stack => "stack"
  | controlFlow => "control flow"

/-- Whether an analysis has been made. -/
def Analysis.carries (a : Analysis) : Pass → Bool
  | .stack => a.hasStackAnalysis
  | .controlFlow => a.hasControlFlow

/-- Why a script could not be read, checked or written. -/
inductive Error
  /-- Bytes could not be read or written. -/
  | inaccessible (fault : AccessFault)
  /-- The text of a dump could not be read. -/
  | invalidDump (fault : Json.Fault)
  /-- An index leads nowhere. -/
  | dangling (reference : Reference)
  /-- A block does not give each of its children an edge type. -/
  | edgeTypesDiffer (address : UInt32) (children types : Nat)
  /-- A variable is among its own siblings. -/
  | ownSibling (id : UInt32)
  /-- An instruction has fewer variables than its statement uses. -/
  | tooFewVariables (address : UInt32) (opcode : Opcode) (needed found : Nat)
  /-- A return block holds no instruction to take the value from. -/
  | emptyReturn (address : UInt32)
  /-- A control structure lacks a block that its statement uses. -/
  | partMissing (address : UInt32) (kind : ControlType) (part : ControlPart)
  /-- A subroutine returns more values than a function can. -/
  | severalReturns (address : UInt32) (count : Nat)
  /-- An analysis that the output depends on has not been made. -/
  | notAnalyzed (pass : Pass)
  deriving DecidableEq

/-- The text of an error. What exactly is wrong with a dump is left open: the
kind of fault is in the value, and no more is said about it. -/
def Error.message : Error → String
  | inaccessible fault => "write failed: " ++ fault.message
  | invalidDump _ => "invalid analysis dump:"
  | dangling reference =>
      "dangling " ++ reference.arena.noun ++ " reference: " ++ toString reference.index
  | edgeTypesDiffer address children types =>
      "block 0x" ++ Text.hex32 address ++ " has " ++ toString children ++
        " children but " ++ toString types ++ " edge types"
  | ownSibling id => "variable " ++ toString id ++ " lists itself as a sibling"
  | tooFewVariables address opcode needed found =>
      opcode.name ++ " at 0x" ++ Text.hex32 address ++ " needs " ++ toString needed ++
        " variables, has " ++ toString found
  | emptyReturn address =>
      "return block 0x" ++ Text.hex32 address ++ " has no instructions"
  | partMissing address kind part =>
      kind.name ++ " structure at 0x" ++ Text.hex32 address ++ " has no " ++ part.name ++ " block"
  | severalReturns address count =>
      "subroutine 0x" ++ Text.hex32 address ++ " returns " ++ toString count ++ " values"
  | notAnalyzed pass => pass.name ++ " analysis has not been performed"

/-- Why work on a script stopped. A reference that leads nowhere is no error of
its own: whoever has the script checked first never meets one. -/
inductive Failure
  | error (error : Error)
  | unresolved (reference : Reference)
  deriving DecidableEq

end NwScript
