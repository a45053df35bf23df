/-
# Names without the findings of an analysis

The stack simulation and the control flow recovery leave their findings in a
script beside what was there before. `Analysis.forget` takes the findings of one
of them out again. No name and no text of an instruction is made of either: a
label leads from an instruction to its block and its subroutine, and these are
found again in what is left.
-/

import NwScript.Error
import NwScript.Instruction.Text

namespace NwScript

/-- An instruction without what an analysis found out about it. -/
def Instruction.forget : Pass → Instruction → Instruction
  | .stack, instr => { instr with operands := [], stack := [] }
  | .controlFlow, instr => instr

/-- A block without what an analysis found out about it. -/
def Block.forget : Pass → Block → Block
  | .stack, block => block
  | .controlFlow, block => { block with children := [], childTypes := [], controls := [] }

/-- A subroutine without what an analysis found out about it. -/
def SubRoutine.forget : Pass → SubRoutine → SubRoutine
  | .stack, sub => { sub with params := [], returns := [], stackProgress := .unstarted }
  | .controlFlow, sub => { sub with returnSites := [] }

namespace Analysis

/-- A script without the findings of an analysis. Variables and global variables
are findings of the stack simulation; that the control flow has been recovered is
a finding as well. -/
def forget (pass : Pass) (a : Analysis) : Analysis where
  size := a.size
  instructions := a.instructions.map (Instruction.forget pass)
  blocks := a.blocks.map (Block.forget pass)
  subRoutines := a.subRoutines.map (SubRoutine.forget pass)
  vars := match pass with
    | .stack => #[]
    | .controlFlow => a.vars
  globals := match pass with
    | .stack => []
    | .controlFlow => a.globals
  hasStackAnalysis := a.hasStackAnalysis
  hasControlFlow := match pass with
    | .stack => a.hasControlFlow
    | .controlFlow => false

end Analysis

section Parts

variable (pass : Pass)

/-- An instruction keeps everything but its variables and its stack. -/
@[simp]
theorem Instruction.forget_keeps (instr : Instruction) :
    (instr.forget pass).address = instr.address ∧ (instr.forget pass).opcode = instr.opcode ∧
      (instr.forget pass).operandType = instr.operandType ∧
      (instr.forget pass).bytes = instr.bytes ∧ (instr.forget pass).args = instr.args ∧
      (instr.forget pass).branches = instr.branches ∧
      (instr.forget pass).follower = instr.follower ∧ (instr.forget pass).block = instr.block ∧
      (instr.forget pass).addressType = instr.addressType := by
  cases pass <;> simp [forget]

/-- A block keeps its place and its instructions. -/
@[simp]
theorem Block.forget_keeps (block : Block) :
    (block.forget pass).address = block.address ∧
      (block.forget pass).instructions = block.instructions ∧
      (block.forget pass).subRoutine = block.subRoutine := by
  cases pass <;> simp [forget]

/-- A subroutine keeps its place, its blocks and its name. -/
@[simp]
theorem SubRoutine.forget_keeps (sub : SubRoutine) :
    (sub.forget pass).address = sub.address ∧ (sub.forget pass).blocks = sub.blocks ∧
      ∀ address, (sub.forget pass).nameAt address = sub.nameAt address := by
  cases pass <;> simp [forget, nameAt]

end Parts

namespace Analysis

variable (pass : Pass) (a : Analysis)

/-- What has been taken out is not there to be taken out again. -/
theorem forget_forget : (a.forget pass).forget pass = a.forget pass := by
  have instructions (instr : Instruction) :
      (instr.forget pass).forget pass = instr.forget pass := by
    cases pass <;> rfl
  have blocks (block : Block) : (block.forget pass).forget pass = block.forget pass := by
    cases pass <;> rfl
  have subs (sub : SubRoutine) : (sub.forget pass).forget pass = sub.forget pass := by
    cases pass <;> rfl
  cases pass <;> simp [forget, Function.comp_def, instructions, blocks, subs]

section Lookup

@[simp]
theorem instructionAt_forget (id : InstrId) :
    (a.forget pass).instructionAt id = Instruction.forget pass <$> a.instructionAt id := by
  simp only [instructionAt, forget, Array.getElem?_map]
  cases a.instructions[id.index.toNat]? <;> rfl

@[simp]
theorem blockAt_forget (id : BlockId) :
    (a.forget pass).blockAt id = Block.forget pass <$> a.blockAt id := by
  simp only [blockAt, forget, Array.getElem?_map]
  cases a.blocks[id.index.toNat]? <;> rfl

@[simp]
theorem subRoutineAt_forget (id : SubId) :
    (a.forget pass).subRoutineAt id = SubRoutine.forget pass <$> a.subRoutineAt id := by
  simp only [subRoutineAt, forget, Array.getElem?_map]
  cases a.subRoutines[id.index.toNat]? <;> rfl

/-- The first instruction of a block is the same one. -/
@[simp]
theorem firstInstruction?_forget (block : Block) :
    (a.forget pass).firstInstruction? (block.forget pass) =
      Option.map (Instruction.forget pass) <$> a.firstInstruction? block := by
  simp only [firstInstruction?, Block.forget_keeps]
  cases block.instructions with
  | nil => rfl
  | cons first rest => simp

/-- The first instruction of a subroutine is the same one. -/
@[simp]
theorem entryInstruction?_forget (sub : SubRoutine) :
    (a.forget pass).entryInstruction? (sub.forget pass) =
      Option.map (Instruction.forget pass) <$> a.entryInstruction? sub := by
  simp only [entryInstruction?, SubRoutine.forget_keeps]
  cases sub.blocks with
  | nil => rfl
  | cons first rest => simp

/-- An instruction is in the same subroutine. -/
@[simp]
theorem subRoutineOf?_forget (instr : Instruction) :
    (a.forget pass).subRoutineOf? (instr.forget pass) = a.subRoutineOf? instr := by
  simp only [subRoutineOf?, Instruction.forget_keeps]
  cases instr.block with
  | none => rfl
  | some id => simp

end Lookup

section Labels

/-- An instruction keeps its label. -/
@[simp]
theorem label?_forget (instr : Instruction) :
    (a.forget pass).label? (instr.forget pass) = a.label? instr := by
  simp only [label?, Instruction.forget_keeps, subRoutineOf?_forget, subRoutineAt_forget,
    bind_map_left, SubRoutine.forget_keeps]

/-- What an entry is called, if there is one. -/
@[simp]
theorem entryLabel?_forget (entry : Option Instruction) :
    (a.forget pass).entryLabel? (entry.map (Instruction.forget pass)) = a.entryLabel? entry := by
  cases entry with
  | none => rfl
  | some instr => exact label?_forget pass a instr

/-- A block keeps its label. -/
@[simp]
theorem blockLabel?_forget (block : Block) :
    (a.forget pass).blockLabel? (block.forget pass) = a.blockLabel? block := by
  simp [blockLabel?]

/-- A subroutine keeps its label. -/
@[simp]
theorem subRoutineLabel?_forget (sub : SubRoutine) :
    (a.forget pass).subRoutineLabel? (sub.forget pass) = a.subRoutineLabel? sub := by
  simp [subRoutineLabel?]

/-- An instruction that is jumped to keeps its name. -/
@[simp]
theorem targetName_forget (instr : Instruction) :
    (a.forget pass).targetName (instr.forget pass) = a.targetName instr := by
  simp [targetName]

end Labels

section Texts

variable (game : Game)

/-- A branch leads where it led. -/
@[simp]
theorem branchTarget_forget (instr : Instruction) :
    (a.forget pass).branchTarget (instr.forget pass) = a.branchTarget instr := by
  simp only [branchTarget, Instruction.forget_keeps]
  cases instr.branches with
  | nil => rfl
  | cons target rest => simp

/-- An instruction keeps its text: its operands are shown as the encoding has them. -/
@[simp]
theorem instructionText_forget (instr : Instruction) :
    (a.forget pass).instructionText game (instr.forget pass) = a.instructionText game instr := by
  have hconstant : (instr.forget pass).constant? = instr.constant? := by
    simp [Instruction.constant?]
  simp only [instructionText, operandsText, Instruction.mnemonic, Instruction.forget_keeps,
    branchTarget_forget, hconstant]

end Texts

end Analysis

end NwScript
