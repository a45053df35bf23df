/-
# Visiting a block

A block is written as its own statements, followed by what its annotations say:
the call it ends in and the block after the call, a return, or a conditional
with its branches and the block where they meet. `Analysis.visit` writes the
statements and answers with the rest as a list of things still to be written,
among them other blocks. No part of the rest is looked at before the whole block
has been found complete.
-/

import NwScript.Naming.Label
import NwScript.Source.Statement
import NwScript.Text.Padding

namespace NwScript

/-- A piece of source text. The statements of a block stay together and keep the
name of the block. -/
inductive Piece
  | body (block : BlockId) (indent : Nat) (statements : List String)
  | text (content : String)
  deriving DecidableEq

/-- The piece as text: each statement on a line of its own, or the text itself. -/
def Piece.output : Piece → String
  | body _ indent statements =>
      String.join (statements.map fun line => Text.tabs indent ++ line ++ "\n")
  | text content => content

/-- A thing still to be written. -/
inductive Pending
  | block (id : BlockId) (indent : Nat)
  | text (content : String)
  deriving DecidableEq

/-- The block that control returns to after a call. -/
def Block.tail? (block : Block) : Option BlockId :=
  (block.children.zip block.childTypes).findSome? fun (child, type) =>
    if type = .subRoutineTail then some child else none

namespace Analysis

variable (a : Analysis) (game : Game)

/-- The statement of an instruction, if its opcode has a form for it; that it
has none is reported. -/
def statementOf? (instr : Instruction) : Transcript Piece (Option String) :=
  match instr.opcode.statementForm? with
  | none => do
      .log (.noStatementForm instr.address instr.opcode)
      return none
  | some form => do return some (← a.statementText game instr form)

/-- The statements of a block. -/
def blockStatements (block : Block) : Transcript Piece (List String) := do
  let statements ← block.instructions.mapM fun id => do
    a.statementOf? game (← Outcome.ofResolved (a.instructionAt id))
  return statements.filterMap fun statement => statement

/-- The call that a block ends in: its last instruction jumps to the callee and
passes its variables. -/
def finalCall? (block : Block) : Outcome (Option String) := do
  match block.instructions.getLast? with
  | none => return none
  | some last =>
      let call ← Outcome.ofResolved (a.instructionAt last)
      match call.branches with
      | [] => return none
      | target :: _ =>
          let callee ← Outcome.ofResolved (a.instructionAt target >>= a.targetName)
          let arguments ← a.argumentNames call.operands
          return some (callee ++ "(" ++ arguments ++ ");")

/-- What a block that calls a subroutine goes on with. -/
def callParts (indent : Nat) (block : Block) : Outcome (List Pending) := do
  if .subRoutineCall ∈ block.childTypes then
    let call ← a.finalCall? block
    let line := call.map fun call => Pending.text (Text.tabs indent ++ call ++ "\n")
    return line.toList ++ block.tail?.toList.map fun tail => Pending.block tail indent
  else return []

/-- The return from a subroutine. A value is returned if the stack is not empty
at the end of the return block; it is the variable its first instruction uses. -/
def returnText (block : Block) (control : ControlStructure) : Outcome String := do
  match control.returnBlock with
  | none => throw (.error (.partMissing block.address .returns .returnBlock))
  | some id =>
      let target ← Outcome.ofResolved (a.blockAt id)
      match target.instructions.head?, target.instructions.getLast? with
      | some first, some last =>
          if (← Outcome.ofResolved (a.instructionAt last)).stack.isEmpty then return "return;"
          let value ← a.operand (← Outcome.ofResolved (a.instructionAt first)) 0
          return "return " ++ value.name ++ ";"
      | _, _ => throw (.error (.emptyReturn target.address))

/-- The variable that a conditional tests: the one the last instruction of its
condition block uses. The block itself is the condition unless another is
named. -/
def conditionVariable (block : Block) (control : ControlStructure) : Outcome Variable := do
  let condition ← match control.ifCond with
    | some id => Outcome.ofResolved (a.blockAt id)
    | none => pure block
  match condition.instructions.getLast? with
  | some last => a.operand (← Outcome.ofResolved (a.instructionAt last)) 0
  | none => throw (.error (.partMissing condition.address .ifCond .condition))

/-- A conditional: the condition, the branches one step further in, and what
follows both. -/
def conditionalParts (indent : Nat) (block : Block) (control : ControlStructure) :
    Outcome (List Pending) := do
  let condition ← a.conditionVariable block control
  let pad := Text.tabs indent
  let whenTrue := control.ifTrue.toList.map fun id => Pending.block id (indent + 1)
  let whenFalse := match control.ifElse with
    | none => []
    | some id =>
        [.text " else \x7b\n", .block id (indent + 1), .text (pad ++ "\x7d")]
  return [.text (pad ++ "if (" ++ condition.name ++ ") \x7b\n")] ++ whenTrue ++
    [.text (pad ++ "\x7d")] ++ whenFalse ++ [.text "\n"] ++
    control.ifNext.toList.map fun id => Pending.block id indent

/-- What a control structure of a block adds. Only returns and conditionals are
reconstructed; any other is reported and left out. -/
def controlParts (indent : Nat) (block : Block) (control : ControlStructure) :
    Transcript Piece (List Pending) :=
  match control.kind with
  | .returns => do
      let statement ← a.returnText block control
      return [.text (Text.tabs indent ++ statement ++ "\n")]
  | .ifCond => a.conditionalParts indent block control
  | kind => do
      .log (.notReconstructed block.address kind)
      return []

/-- Write the statements of a block and answer with what follows them. -/
def visit (id : BlockId) (indent : Nat) (block : Block) : Transcript Piece (List Pending) := do
  let statements ← a.blockStatements game block
  .write (.body id indent statements)
  let call ← a.callParts indent block
  let controls ← block.controls.mapM (a.controlParts indent block)
  return call ++ controls.flatten

end Analysis

end NwScript
