/-
# The analyzed script

Decoding, stack simulation and control flow recovery have already happened when
a script reaches this library. What they found is an `Analysis`: instructions,
the basic blocks they form, the subroutines the blocks form, and the variables
that live on the stack between them. The analysis may come from a file, so an
index in it may lead nowhere; the accessors below say so instead of guessing.
-/

import NwScript.Opcode
import NwScript.OperandType
import NwScript.Graph.Id
import NwScript.Graph.SiblingSet

namespace NwScript

/-- What makes an address interesting to other instructions. -/
inductive AddressType
  | none
  | jumpLabel
  | subRoutine
  | storeState
  deriving DecidableEq

/-- One instruction and what the analyses found out about it. -/
structure Instruction where
  address : UInt32
  opcode : Opcode
  operandType : OperandType := .none
  /-- The encoded operands, after the opcode byte and the type byte. -/
  bytes : List UInt8 := []
  args : List Int32 := []
  /-- The variables the instruction reads and writes. -/
  operands : List VarId := []
  /-- The stack before the instruction, bottom first. -/
  stack : List VarId := []
  branches : List InstrId := []
  /-- The instruction that runs next if this one does not jump. -/
  follower : Option InstrId := .none
  block : Option BlockId := .none
  addressType : AddressType := .none
  deriving DecidableEq

/-- The type of a variable. -/
inductive VariableType
  | void
  | int
  | float
  | string
  | object
  | engine (slot : UInt8)
  | any
  deriving DecidableEq

/-- A value that lives in a stack slot. -/
structure Variable where
  id : UInt32
  type : VariableType
  creator : Option InstrId := none
  /-- Other producers that were merged into the same slot at a join point. -/
  siblings : SiblingSet := .empty
  deriving DecidableEq

/-- Why control passes from one block to another. -/
inductive EdgeType
  | unconditional
  | conditionalTrue
  | conditionalFalse
  | subRoutineCall
  | subRoutineTail
  | subRoutineStore
  | dead
  deriving DecidableEq

/-- The part a block plays in a recovered control structure. -/
inductive ControlType
  | none
  | doWhileHead
  | doWhileTail
  | doWhileNext
  | whileHead
  | whileTail
  | whileNext
  | breaks
  | continues
  | returns
  | ifCond
  | ifTrue
  | ifElse
  | ifNext
  | unknown
  deriving DecidableEq

/-- The name of a control type, as dumps and reports spell it. -/
def ControlType.name : ControlType → String
  | none => "None"
  | doWhileHead => "DoWhileHead"
  | doWhileTail => "DoWhileTail"
  | doWhileNext => "DoWhileNext"
  | whileHead => "WhileHead"
  | whileTail => "WhileTail"
  | whileNext => "WhileNext"
  | breaks => "Break"
  | continues => "Continue"
  | returns => "Return"
  | ifCond => "IfCond"
  | ifTrue => "IfTrue"
  | ifElse => "IfElse"
  | ifNext => "IfNext"
  | unknown => "Unknown"

/-- A control structure as one of its blocks sees it. -/
structure ControlStructure where
  kind : ControlType := .none
  ifCond : Option BlockId := .none
  ifTrue : Option BlockId := .none
  ifElse : Option BlockId := .none
  ifNext : Option BlockId := .none
  loopHead : Option BlockId := .none
  loopTail : Option BlockId := .none
  loopNext : Option BlockId := .none
  loopBreak : Option BlockId := .none
  loopContinue : Option BlockId := .none
  returnBlock : Option BlockId := .none
  deriving DecidableEq

/-- The blocks a control structure names. -/
def ControlStructure.blocks (control : ControlStructure) : List BlockId :=
  control.ifCond.toList ++ control.ifTrue.toList ++ control.ifElse.toList ++
    control.ifNext.toList ++ control.loopHead.toList ++ control.loopTail.toList ++
    control.loopNext.toList ++ control.loopBreak.toList ++ control.loopContinue.toList ++
    control.returnBlock.toList

/-- A run of instructions that is entered only at its start. Its children and
the types of the edges to them are two lists of the same length. -/
structure Block where
  address : UInt32
  instructions : List InstrId
  subRoutine : SubId
  children : List BlockId := []
  childTypes : List EdgeType := []
  controls : List ControlStructure := []
  deriving DecidableEq

/-- What a subroutine is for. -/
inductive SubRoutineType
  | none
  | start
  | global
  | storeState
  deriving DecidableEq

/-- How far the stack simulation got with a subroutine. -/
inductive StackProgress
  | unstarted
  | inProgress
  | finished
  deriving DecidableEq

/-- A subroutine of the script. -/
structure SubRoutine where
  address : UInt32
  kind : SubRoutineType := .none
  name : Option String := .none
  /-- The blocks of the subroutine, its entry first. -/
  blocks : List BlockId
  params : List VarId := []
  returns : List VarId := []
  returnSites : List InstrId := []
  stackProgress : StackProgress := .unstarted
  deriving DecidableEq

/-- Everything the analyses found out about a script. -/
structure Analysis where
  /-- The size of the compiled script in bytes. -/
  size : UInt64 := 0
  /-- All instructions, in the order of their addresses. -/
  instructions : Array Instruction := #[]
  blocks : Array Block := #[]
  subRoutines : Array SubRoutine := #[]
  vars : Array Variable := #[]
  globals : List VarId := []
  hasStackAnalysis : Bool := false
  hasControlFlow : Bool := false
  deriving DecidableEq

namespace Analysis

/-- How many entries an arena holds. -/
def arenaSize (a : Analysis) : Arena → Nat
  | .instructions => a.instructions.size
  | .blocks => a.blocks.size
  | .subRoutines => a.subRoutines.size
  | .vars => a.vars.size

/-- The instruction an index leads to. -/
def instructionAt (a : Analysis) (id : InstrId) : Resolved Instruction :=
  match a.instructions[id.index.toNat]? with
  | some found => .ok found
  | none => .error id.reference

/-- The block an index leads to. -/
def blockAt (a : Analysis) (id : BlockId) : Resolved Block :=
  match a.blocks[id.index.toNat]? with
  | some found => .ok found
  | none => .error id.reference

/-- The subroutine an index leads to. -/
def subRoutineAt (a : Analysis) (id : SubId) : Resolved SubRoutine :=
  match a.subRoutines[id.index.toNat]? with
  | some found => .ok found
  | none => .error id.reference

/-- The variable an index leads to. -/
def variableAt (a : Analysis) (id : VarId) : Resolved Variable :=
  match a.vars[id.index.toNat]? with
  | some found => .ok found
  | none => .error id.reference

/-- The first instruction of a block, if it has any. -/
def firstInstruction? (a : Analysis) (block : Block) : Resolved (Option Instruction) :=
  match block.instructions with
  | [] => pure none
  | first :: _ => some <$> a.instructionAt first

/-- The first instruction of a subroutine: that of its first block. -/
def entryInstruction? (a : Analysis) (sub : SubRoutine) : Resolved (Option Instruction) :=
  match sub.blocks with
  | [] => pure none
  | first :: _ => do a.firstInstruction? (← a.blockAt first)

/-- The subroutine of the block that an instruction says it is in. -/
def subRoutineOf? (a : Analysis) (instr : Instruction) : Resolved (Option SubId) :=
  match instr.block with
  | none => pure none
  | some id => do return some (← a.blockAt id).subRoutine

end Analysis

end NwScript
