/-
# Instructions as text

An instruction is written as its mnemonic and its operands. Its encoding can be
shown as bytes beside it.
-/

import NwScript.Instruction.Constant
import NwScript.Naming.Label
import NwScript.Text.Padding

namespace NwScript

namespace Instruction

/-- The encoded instruction, byte by byte. -/
def encoding (instr : Instruction) : List UInt8 :=
  instr.opcode.code :: instr.operandType.code :: instr.bytes

/-- The encoded instruction in hexadecimal, with a space between two bytes. -/
def bytesText (instr : Instruction) : String :=
  " ".intercalate (instr.encoding.map Text.hex8)

/-- The opcode with the suffix of its operand type. -/
def mnemonic (instr : Instruction) : String :=
  instr.opcode.name ++ instr.operandType.suffix

end Instruction

/-- Plain operands: numbers with a space between two of them. -/
def argsText (args : List Int32) : String :=
  " ".intercalate (args.map fun arg => toString arg.toInt)

namespace Analysis

/-- Where a branch leads: to its first target if one is known, else to the
address its first operand gives as an offset, without regard to overflow. -/
def branchTarget (a : Analysis) (instr : Instruction) : Resolved String :=
  match instr.branches with
  | target :: _ => do a.targetName (← a.instructionAt target)
  | [] => pure (jumpTargetName (instr.address + (instr.args.headD 0).toUInt32))

/-- The operands of an instruction. Those of a branch begin with its target; a
constant shows its literal if its bytes hold one; an action shows the name of
the function and the count of its arguments. -/
def operandsText (a : Analysis) (game : Game) (instr : Instruction) : Resolved String :=
  if instr.opcode.isBranch then do
    let target ← a.branchTarget instr
    let rest := argsText instr.args.tail
    return if rest.isEmpty then target else target ++ " " ++ rest
  else
    match instr.opcode with
    | .const => pure (instr.constant?.getD (argsText instr.args))
    | .action =>
        pure (actionName game (instr.args.headD (-1)) ++ " " ++
          toString (instr.args[1]?.getD 0).toInt)
    | _ => pure (argsText instr.args)

/-- The instruction as one text: the mnemonic alone, or brought to a column of
ten and followed by the operands. -/
def instructionText (a : Analysis) (game : Game) (instr : Instruction) : Resolved String := do
  let operands ← a.operandsText game instr
  return if operands.isEmpty then instr.mnemonic
    else Text.padRight 10 instr.mnemonic ++ " " ++ operands

end Analysis

end NwScript
