/-
# Entries of a linear form

A listing and an assembly go through the instructions in order and show the same
things about each: its label, the stack before it, its text, and whether the
flow of control ends after it. An `Entry` holds these things before any style is
chosen.
-/

import NwScript.Instruction.Text
import NwScript.Naming.Signature
import NwScript.Text.LowerCase

namespace NwScript

/-- What is shown of one stack slot. -/
structure StackRow where
  slot : Nat
  id : UInt32
  typeName : String
  /-- The address of the instruction that made the value, or zero. -/
  creator : UInt32
  /-- The ids of the sibling variables, ascending. -/
  siblings : List UInt32
  deriving DecidableEq

/-- What is shown of one instruction. -/
structure Entry where
  label : Option String
  signature : Option String
  /-- The stack before the instruction, if it is to be shown. -/
  stack : Option (List StackRow)
  address : UInt32
  bytes : String
  text : String
  /-- Whether no instruction follows in the flow of control. -/
  endsFlow : Bool
  deriving DecidableEq

namespace Analysis

/-- The row of a variable in a stack slot. -/
def stackRow (a : Analysis) (game : Game) (slot : Nat) (id : VarId) : Resolved StackRow := do
  let var ← a.variableAt id
  let siblings ← var.siblings.toList.mapM fun s => do return (← a.variableAt s).id
  let creator ← match var.creator with
    | some maker => do pure (← a.instructionAt maker).address
    | none => pure 0
  return {
    slot := slot
    id := var.id
    typeName := Text.lowerCase (var.type.name game)
    creator := creator
    siblings := siblings.mergeSort (fun x y => x ≤ y) }

/-- The rows of the stack before an instruction, bottom first. -/
def stackRows (a : Analysis) (game : Game) (instr : Instruction) : Resolved (List StackRow) :=
  instr.stack.zipIdx.mapM fun (id, slot) => a.stackRow game slot id

/-- The signature shown beside the label of an instruction that starts a
subroutine. -/
def signatureBeside? (a : Analysis) (game : Game) (instr : Instruction) :
    Resolved (Option String) :=
  if instr.addressType = .subRoutine then do
    match ← a.subRoutineOf? instr with
    | some sub => a.knownSignatureAt? game sub
    | none => pure none
  else pure none

/-- What is shown of an instruction, with the stack before it or without. -/
def entry (a : Analysis) (game : Game) (withStack : Bool) (instr : Instruction) :
    Resolved Entry := do
  let label ← a.label? instr
  let signature ← a.signatureBeside? game instr
  let stack ← if withStack then some <$> a.stackRows game instr else pure none
  let text ← a.instructionText game instr
  return {
    label := label
    signature := signature
    stack := stack
    address := instr.address
    bytes := instr.bytesText
    text := text
    endsFlow := instr.follower.isNone }

/-- The entries of a linear form. Stacks can be shown only if they are known. -/
def entries (a : Analysis) (game : Game) (printStack : Bool) : Resolved (List Entry) :=
  a.instructions.toList.mapM (a.entry game (printStack && a.hasStackAnalysis))

end Analysis

end NwScript
