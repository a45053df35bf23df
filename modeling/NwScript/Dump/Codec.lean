/-
# The format of a dump

A script is exchanged as a JSON object. This module says, type by type, what the
fields are called, in which order they stand when a record is written as an
array, and which of them may be missing.
-/

import NwScript.Dump.Names
import NwScript.Error
import NwScript.Json.Reader
import NwScript.Json.Record
import NwScript.Json.Variant
import NwScript.Script

namespace NwScript.Dump

open Json (Codec RecordField Fields Value Variant)

/-- Opcodes by their mnemonics. -/
def opcode : Codec Opcode := .named Opcode.all Opcode.name

/-- Kinds of addresses. -/
def addressType : Codec AddressType := .named AddressType.all AddressType.name

/-- Types of edges. -/
def edgeType : Codec EdgeType := .named EdgeType.all EdgeType.name

/-- Parts that a block plays. A name that is not known yet is read as unknown. -/
def controlType : Codec ControlType :=
  .named ControlType.all ControlType.name (some .unknown)

/-- Purposes of subroutines. -/
def subRoutineType : Codec SubRoutineType := .named SubRoutineType.all SubRoutineType.name

/-- Stages of the stack simulation. -/
def stackProgress : Codec StackProgress := .named StackProgress.all StackProgress.name

/-- Games. -/
def gameId : Codec GameId := .named GameId.all GameId.name

/-- Forms of output. -/
def outputFormat : Codec OutputFormat := .named OutputFormat.all OutputFormat.name

/-- A case with a slot number for its content. -/
def slotValue (name : String) (slot : UInt8) : Value :=
  .object [(name, Codec.uint8.encode slot)]

/-- How an operand type is written. -/
def encodeOperandType : OperandType → Value
  | .none => .string "None"
  | .direct => .string "Direct"
  | .int => .string "Int"
  | .float => .string "Float"
  | .string => .string "String"
  | .object => .string "Object"
  | .resource => .string "Resource"
  | .engine slot => slotValue "EngineType" slot
  | .intInt => .string "IntInt"
  | .floatFloat => .string "FloatFloat"
  | .objectObject => .string "ObjectObject"
  | .stringString => .string "StringString"
  | .structStruct => .string "StructStruct"
  | .intFloat => .string "IntFloat"
  | .floatInt => .string "FloatInt"
  | .engineEngine slot => slotValue "EngineTypeEngineType" slot
  | .vectorVector => .string "VectorVector"
  | .vectorFloat => .string "VectorFloat"
  | .floatVector => .string "FloatVector"

/-- Operand types. -/
def operandType : Codec OperandType :=
  .variants encodeOperandType
    [.plain "None" .none,
      .plain "Direct" .direct,
      .plain "Int" .int,
      .plain "Float" .float,
      .plain "String" .string,
      .plain "Object" .object,
      .plain "Resource" .resource,
      .holding "EngineType" .uint8 .engine,
      .plain "IntInt" .intInt,
      .plain "FloatFloat" .floatFloat,
      .plain "ObjectObject" .objectObject,
      .plain "StringString" .stringString,
      .plain "StructStruct" .structStruct,
      .plain "IntFloat" .intFloat,
      .plain "FloatInt" .floatInt,
      .holding "EngineTypeEngineType" .uint8 .engineEngine,
      .plain "VectorVector" .vectorVector,
      .plain "VectorFloat" .vectorFloat,
      .plain "FloatVector" .floatVector]

/-- How the type of a variable is written. -/
def encodeVariableType : VariableType → Value
  | .void => .string "Void"
  | .int => .string "Int"
  | .float => .string "Float"
  | .string => .string "String"
  | .object => .string "Object"
  | .engine slot => slotValue "EngineType" slot
  | .any => .string "Any"

/-- Types of variables. -/
def variableType : Codec VariableType :=
  .variants encodeVariableType
    [.plain "Void" .void,
      .plain "Int" .int,
      .plain "Float" .float,
      .plain "String" .string,
      .plain "Object" .object,
      .holding "EngineType" .uint8 .engine,
      .plain "Any" .any]

/-- Indices of instructions. -/
def instrId : Codec InstrId := Codec.uint64.via InstrId.index InstrId.mk

/-- Indices of blocks. -/
def blockId : Codec BlockId := Codec.uint64.via BlockId.index BlockId.mk

/-- Indices of subroutines. -/
def subId : Codec SubId := Codec.uint64.via SubId.index SubId.mk

/-- Indices of variables. -/
def varId : Codec VarId := Codec.uint64.via VarId.index VarId.mk

/-- Sets of siblings, as arrays in any order and with repetitions. -/
def siblingSet : Codec SiblingSet := varId.list.via SiblingSet.toList SiblingSet.ofList

/-- A field that must be there. -/
def required {α : Type} (name : String) (codec : Codec α) : RecordField α := ⟨name, codec, none⟩

/-- A field that has a default. -/
def defaulting {α : Type} (name : String) (codec : Codec α) (value : α) :
    RecordField α :=
  ⟨name, codec, some value⟩

/-- Instructions. -/
def instruction : Codec Instruction :=
  .record
    (.cons (required "address" .uint32) <|
      .cons (required "opcode" opcode) <|
      .cons (defaulting "ins_type" operandType .none) <|
      .cons (defaulting "bytes" Codec.uint8.list []) <|
      .cons (defaulting "args" Codec.int32.list []) <|
      .cons (defaulting "variables" varId.list []) <|
      .cons (defaulting "stack" varId.list []) <|
      .cons (defaulting "branches" instrId.list []) <|
      .cons (defaulting "follower" instrId.optional none) <|
      .cons (defaulting "block" blockId.optional none) <|
      .cons (defaulting "address_type" addressType .none) .nil)
    (fun i =>
      (i.address, i.opcode, i.operandType, i.bytes, i.args, i.operands, i.stack, i.branches,
        i.follower, i.block, i.addressType, ()))
    (fun (address, opcode, operandType, bytes, args, operands, stack, branches, follower,
        block, addressType, ()) =>
      { address, opcode, operandType, bytes, args, operands, stack, branches, follower, block,
        addressType })

/-- Variables. -/
def variableCodec : Codec Variable :=
  .record
    (.cons (required "id" .uint32) <|
      .cons (required "ty" variableType) <|
      .cons (defaulting "creator" instrId.optional none) <|
      .cons (defaulting "siblings" siblingSet .empty) .nil)
    (fun v => (v.id, v.type, v.creator, v.siblings, ()))
    (fun (id, type, creator, siblings, ()) => { id, type, creator, siblings })

/-- Control structures. -/
def controlStructure : Codec ControlStructure :=
  .record
    (.cons (defaulting "kind" controlType .none) <|
      .cons (defaulting "if_cond" blockId.optional none) <|
      .cons (defaulting "if_true" blockId.optional none) <|
      .cons (defaulting "if_else" blockId.optional none) <|
      .cons (defaulting "if_next" blockId.optional none) <|
      .cons (defaulting "loop_head" blockId.optional none) <|
      .cons (defaulting "loop_tail" blockId.optional none) <|
      .cons (defaulting "loop_next" blockId.optional none) <|
      .cons (defaulting "loop_break" blockId.optional none) <|
      .cons (defaulting "loop_continue" blockId.optional none) <|
      .cons (defaulting "retn" blockId.optional none) .nil)
    (fun c =>
      (c.kind, c.ifCond, c.ifTrue, c.ifElse, c.ifNext, c.loopHead, c.loopTail, c.loopNext,
        c.loopBreak, c.loopContinue, c.returnBlock, ()))
    (fun (kind, ifCond, ifTrue, ifElse, ifNext, loopHead, loopTail, loopNext, loopBreak,
        loopContinue, returnBlock, ()) =>
      { kind, ifCond, ifTrue, ifElse, ifNext, loopHead, loopTail, loopNext, loopBreak,
        loopContinue, returnBlock })

/-- Blocks. -/
def block : Codec Block :=
  .record
    (.cons (required "address" .uint32) <|
      .cons (required "instructions" instrId.list) <|
      .cons (required "sub_routine" subId) <|
      .cons (defaulting "children" blockId.list []) <|
      .cons (defaulting "children_types" edgeType.list []) <|
      .cons (defaulting "controls" controlStructure.list []) .nil)
    (fun b =>
      (b.address, b.instructions, b.subRoutine, b.children, b.childTypes, b.controls, ()))
    (fun (address, instructions, subRoutine, children, childTypes, controls, ()) =>
      { address, instructions, subRoutine, children, childTypes, controls })

/-- Subroutines. -/
def subRoutine : Codec SubRoutine :=
  .record
    (.cons (required "address" .uint32) <|
      .cons (defaulting "kind" subRoutineType .none) <|
      .cons (defaulting "name" Codec.string.optional none) <|
      .cons (required "blocks" blockId.list) <|
      .cons (defaulting "params" varId.list []) <|
      .cons (defaulting "returns" varId.list []) <|
      .cons (defaulting "return_sites" instrId.list []) <|
      .cons (defaulting "stack_analysis" stackProgress .unstarted) .nil)
    (fun s =>
      (s.address, s.kind, s.name, s.blocks, s.params, s.returns, s.returnSites,
        s.stackProgress, ()))
    (fun (address, kind, name, blocks, params, returns, returnSites, stackProgress, ()) =>
      { address, kind, name, blocks, params, returns, returnSites, stackProgress })

/-- Analyses. -/
def analysis : Codec Analysis :=
  .record
    (.cons (defaulting "size" .uint64 0) <|
      .cons (defaulting "instructions" instruction.array #[]) <|
      .cons (defaulting "blocks" block.array #[]) <|
      .cons (defaulting "sub_routines" subRoutine.array #[]) <|
      .cons (defaulting "variables" variableCodec.array #[]) <|
      .cons (defaulting "globals" varId.list []) <|
      .cons (defaulting "has_stack_analysis" .bool false) <|
      .cons (defaulting "has_control_flow" .bool false) .nil)
    (fun a =>
      (a.size, a.instructions, a.blocks, a.subRoutines, a.vars, a.globals,
        a.hasStackAnalysis, a.hasControlFlow, ()))
    (fun (size, instructions, blocks, subRoutines, vars, globals, hasStackAnalysis,
        hasControlFlow, ()) =>
      { size, instructions, blocks, subRoutines, vars, globals, hasStackAnalysis,
        hasControlFlow })

/-- Games. -/
def game : Codec Game :=
  .record
    (.cons (defaulting "id" gameId .unknown) <|
      .cons (defaulting "engine_types" Codec.string.optional.list []) <|
      .cons (defaulting "functions" Codec.string.list []) .nil)
    (fun g => (g.id, g.engineTypes, g.functions, ()))
    (fun (id, engineTypes, functions, ()) => { id, engineTypes, functions })

/-- Options of a rendering. -/
def renderOptions : Codec RenderOptions :=
  .record
    (.cons (required "format" outputFormat) <|
      .cons (required "print_stack" .bool) <|
      .cons (required "print_control_types" .bool) .nil)
    (fun o => (o.format, o.printStack, o.printControlTypes, ()))
    (fun (format, printStack, printControlTypes, ()) =>
      { format, printStack, printControlTypes })

/-- Whole scripts. -/
def script : Codec Script :=
  .record
    (.cons (defaulting "game" game {}) <|
      .cons (required "analysis" analysis) .nil)
    (fun s => (s.game, s.analysis, ()))
    (fun (game, analysis, ()) => { game, analysis })

/-- Take a script from a JSON document. -/
def readDocument (document : Json.Document) : Except Error Script :=
  (script.decodeDocument document).mapError .invalidDump

/-- Read a script from the bytes of a dump. -/
def readScript (bytes : List UInt8) : Except Error Script := readDocument (Json.read bytes)

/-- Write a script as the text of a dump. -/
def writeScript (s : Script) : String := (script.encode s).text

end NwScript.Dump
