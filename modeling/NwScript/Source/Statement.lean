/-
# Statements

Some instructions can be written as a statement that assigns a variable. Which
they are depends on the opcode alone; what the statement says depends on the
variables that the analyses gave to the instruction, and on the literal of a
constant. All other instructions have no statement: stack bookkeeping and jumps
show in the structure around them, the rest is left out.
-/

import NwScript.Instruction.Constant
import NwScript.Naming.Basic
import NwScript.Transcript

namespace NwScript

/-- The shape of a statement. -/
inductive StatementForm
  /-- A variable gets the value of a literal. -/
  | constant
  /-- A function of the game is called. -/
  | call
  /-- A variable gets the value of another. -/
  | copy
  /-- A variable gets the value of two others, joined by an operator. -/
  | binary (operator : String)
  /-- A variable gets the negation of another. -/
  | negation
  /-- A variable comes into being with the default value of its type. -/
  | reserve
  deriving DecidableEq

/-- The form in which an instruction with the opcode is written, if it has one. -/
def Opcode.statementForm? : Opcode → Option StatementForm
  | const => some .constant
  | action => some .call
  | cpDownSp | cpTopSp | cpDownBp | cpTopBp => some .copy
  | logAnd => some (.binary "&&")
  | logOr => some (.binary "||")
  | eq => some (.binary "==")
  | leq => some (.binary "<=")
  | lt => some (.binary "<")
  | geq => some (.binary ">=")
  | gt => some (.binary ">")
  | not => some .negation
  | rsAdd => some .reserve
  | _ => none

/-- What a new variable holds. Objects and engine types have no literal, so they
are written as zero like an integer. -/
def VariableType.initialText : VariableType → String
  | string => "\"\""
  | float => "0.0"
  | _ => "0"

/-- How many arguments an action takes: its second operand, if that is a count. -/
def Instruction.argumentCount (instr : Instruction) : Nat :=
  (instr.args[1]?.getD 0).toInt.toNat

namespace Analysis

/-- The variable at a place among those of an instruction. -/
def operand (a : Analysis) (instr : Instruction) (place : Nat) : Outcome Variable :=
  match instr.operands[place]? with
  | some id => Outcome.ofResolved (a.variableAt id)
  | none =>
      .error (.error (.tooFewVariables instr.address instr.opcode (place + 1)
        instr.operands.length))

/-- The names of variables, with a comma between two of them. -/
def argumentNames (a : Analysis) (ids : List VarId) : Outcome String := do
  let names ← ids.mapM fun id => do return (← Outcome.ofResolved (a.variableAt id)).name
  return ", ".intercalate names

/-- A call of a function of the game. The first variables are the arguments; if
there are more, the last one gets the result. -/
def callText (a : Analysis) (game : Game) (instr : Instruction) : Outcome String := do
  let count := instr.argumentCount
  if instr.operands.length < count then
    throw (.error (.tooFewVariables instr.address instr.opcode count instr.operands.length))
  let target ←
    if count < instr.operands.length then do
      let result ← a.operand instr (instr.operands.length - 1)
      pure (result.typedName game ++ " = ")
    else pure ""
  let arguments ← a.argumentNames (instr.operands.take count)
  return target ++ actionName game (instr.args.headD (-1)) ++ "(" ++ arguments ++ ");"

/-- The statement of an instruction in a given form. -/
def statementText (a : Analysis) (game : Game) (instr : Instruction) :
    StatementForm → Outcome String
  | .constant => do
      let var ← a.operand instr 0
      return var.typedName game ++ " = " ++
        instr.constant?.getD var.type.initialText ++ ";"
  | .call => a.callText game instr
  | .copy => do
      let source ← a.operand instr 0
      let target ← a.operand instr 1
      return target.typedName game ++ " = " ++ source.name ++ ";"
  | .binary operator => do
      let left ← a.operand instr 0
      let right ← a.operand instr 1
      let result ← a.operand instr 2
      return result.typedName game ++ " = " ++ left.name ++ " " ++ operator ++ " " ++
        right.name ++ ";"
  | .negation => do
      let negated ← a.operand instr 0
      let result ← a.operand instr 1
      return result.typedName game ++ " = !" ++ negated.name ++ ";"
  | .reserve => do
      let var ← a.operand instr 0
      return var.typedName game ++ " = " ++ var.type.initialText ++ ";"

end Analysis

end NwScript
