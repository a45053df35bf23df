/-
# The instruction set

An NWScript program is a sequence of stack machine instructions. This module
names the fifty opcodes and gives each one its encoding byte and its mnemonic.
-/

namespace NwScript

/-- The operations of the NWScript stack machine, in the order of their
encoding bytes. -/
inductive Opcode
  | cpDownSp | rsAdd | cpTopSp | const | action
  | logAnd | logOr | incOr | excOr | boolAnd
  | eq | neq | geq | gt | lt | leq
  | shLeft | shRight | uShRight
  | add | sub | mul | div | mod | neg | comp
  | movSp | storeStateAll
  | jmp | jsr | jz | retn
  | destruct | not
  | decSp | incSp
  | jnz
  | cpDownBp | cpTopBp | decBp | incBp | saveBp | restoreBp
  | storeState | nop
  | writeArray | readArray | getRef | getRefArray
  | scriptSize
  deriving DecidableEq

namespace Opcode

/-- Every opcode once, in the order of the encoding bytes. -/
def all : List Opcode :=
  [cpDownSp, rsAdd, cpTopSp, const, action,
    logAnd, logOr, incOr, excOr, boolAnd,
    eq, neq, geq, gt, lt, leq,
    shLeft, shRight, uShRight,
    add, sub, mul, div, mod, neg, comp,
    movSp, storeStateAll,
    jmp, jsr, jz, retn,
    destruct, not,
    decSp, incSp,
    jnz,
    cpDownBp, cpTopBp, decBp, incBp, saveBp, restoreBp,
    storeState, nop,
    writeArray, readArray, getRef, getRefArray,
    scriptSize]

/-- The byte that encodes the opcode. -/
def code : Opcode → UInt8
  | cpDownSp => 0x01
  | rsAdd => 0x02
  | cpTopSp => 0x03
  | const => 0x04
  | action => 0x05
  | logAnd => 0x06
  | logOr => 0x07
  | incOr => 0x08
  | excOr => 0x09
  | boolAnd => 0x0A
  | eq => 0x0B
  | neq => 0x0C
  | geq => 0x0D
  | gt => 0x0E
  | lt => 0x0F
  | leq => 0x10
  | shLeft => 0x11
  | shRight => 0x12
  | uShRight => 0x13
  | add => 0x14
  | sub => 0x15
  | mul => 0x16
  | div => 0x17
  | mod => 0x18
  | neg => 0x19
  | comp => 0x1A
  | movSp => 0x1B
  | storeStateAll => 0x1C
  | jmp => 0x1D
  | jsr => 0x1E
  | jz => 0x1F
  | retn => 0x20
  | destruct => 0x21
  | not => 0x22
  | decSp => 0x23
  | incSp => 0x24
  | jnz => 0x25
  | cpDownBp => 0x26
  | cpTopBp => 0x27
  | decBp => 0x28
  | incBp => 0x29
  | saveBp => 0x2A
  | restoreBp => 0x2B
  | storeState => 0x2C
  | nop => 0x2D
  | writeArray => 0x30
  | readArray => 0x32
  | getRef => 0x37
  | getRefArray => 0x39
  | scriptSize => 0x42

/-- The mnemonic, without the suffix that the operand type adds. -/
def name : Opcode → String
  | cpDownSp => "CPDOWNSP"
  | rsAdd => "RSADD"
  | cpTopSp => "CPTOPSP"
  | const => "CONST"
  | action => "ACTION"
  | logAnd => "LOGAND"
  | logOr => "LOGOR"
  | incOr => "INCOR"
  | excOr => "EXCOR"
  | boolAnd => "BOOLAND"
  | eq => "EQ"
  | neq => "NEQ"
  | geq => "GEQ"
  | gt => "GT"
  | lt => "LT"
  | leq => "LEQ"
  | shLeft => "SHLEFT"
  | shRight => "SHRIGHT"
  | uShRight => "USHRIGHT"
  | add => "ADD"
  | sub => "SUB"
  | mul => "MUL"
  | div => "DIV"
  | mod => "MOD"
  | neg => "NEG"
  | comp => "COMP"
  | movSp => "MOVSP"
  | storeStateAll => "STORESTATEALL"
  | jmp => "JMP"
  | jsr => "JSR"
  | jz => "JZ"
  | retn => "RETN"
  | destruct => "DESTRUCT"
  | not => "NOT"
  | decSp => "DECSP"
  | incSp => "INCSP"
  | jnz => "JNZ"
  | cpDownBp => "CPDOWNBP"
  | cpTopBp => "CPTOPBP"
  | decBp => "DECBP"
  | incBp => "INCBP"
  | saveBp => "SAVEBP"
  | restoreBp => "RESTOREBP"
  | storeState => "STORESTATE"
  | nop => "NOP"
  | writeArray => "WRITEARRAY"
  | readArray => "READARRAY"
  | getRef => "GETREF"
  | getRefArray => "GETREFARRAY"
  | scriptSize => "SCRIPTSIZE"

/-- Whether the first operand is an address rather than plain data. -/
def isBranch : Opcode → Bool
  | jmp | jsr | jz | jnz | storeState | storeStateAll => true
  | _ => false

end Opcode

end NwScript
