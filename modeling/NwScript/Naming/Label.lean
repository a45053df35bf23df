/-
# Labels

An instruction that others jump to or call has a label. A block or a subroutine
has the label of its first instruction.
-/

import NwScript.Naming.Basic

namespace NwScript.Analysis

/-- The label of an instruction, if others refer to it. -/
def label? (a : Analysis) (instr : Instruction) : Resolved (Option String) :=
  match instr.addressType with
  | .none => pure none
  | .jumpLabel => pure (some (jumpTargetName instr.address))
  | .storeState => pure (some (storeStateAddressName instr.address))
  | .subRoutine => do
      match ← a.subRoutineOf? instr with
      | some sub => return some ((← a.subRoutineAt sub).nameAt instr.address)
      | none => return some (subRoutineAddressName instr.address)

/-- The label of the instruction an optional entry is, if it has one. -/
def entryLabel? (a : Analysis) (entry : Option Instruction) : Resolved (Option String) :=
  match entry with
  | some instr => a.label? instr
  | none => pure none

/-- The label of a block. -/
def blockLabel? (a : Analysis) (block : Block) : Resolved (Option String) := do
  a.entryLabel? (← a.firstInstruction? block)

/-- The label of a subroutine. -/
def subRoutineLabel? (a : Analysis) (sub : SubRoutine) : Resolved (Option String) := do
  a.entryLabel? (← a.entryInstruction? sub)

/-- How an instruction is named where another one jumps to it: by its label, or
by its address if it has none. -/
def targetName (a : Analysis) (instr : Instruction) : Resolved String := do
  return (← a.label? instr).getD (jumpTargetName instr.address)

end NwScript.Analysis
