/-
# Operand types

The byte after an opcode says which types the instruction works on. Engine
types are handles that only the game knows; the byte names them by slot.
-/

namespace NwScript

/-- What kind of operands an instruction takes. -/
inductive OperandType
  | none
  | direct
  | int
  | float
  | string
  | object
  | resource
  | engine (slot : UInt8)
  | intInt
  | floatFloat
  | objectObject
  | stringString
  | structStruct
  | intFloat
  | floatInt
  | engineEngine (slot : UInt8)
  | vectorVector
  | vectorFloat
  | floatVector
  deriving DecidableEq

namespace OperandType

/-- The byte that encodes the type. Sixteen slots are left for one engine type
and eight for a pair, so a higher slot wraps around. -/
def code : OperandType → UInt8
  | none => 0x00
  | direct => 0x01
  | int => 0x03
  | float => 0x04
  | string => 0x05
  | object => 0x06
  | resource => 0x60
  | engine slot => 0x10 + (slot &&& 0x0F)
  | intInt => 0x20
  | floatFloat => 0x21
  | objectObject => 0x22
  | stringString => 0x23
  | structStruct => 0x24
  | intFloat => 0x25
  | floatInt => 0x26
  | engineEngine slot => 0x30 + (slot &&& 0x07)
  | vectorVector => 0x3A
  | vectorFloat => 0x3B
  | floatVector => 0x3C

/-- What the type adds to a mnemonic, as the letters II in ADDII. -/
def suffix : OperandType → String
  | none | direct => ""
  | int => "I"
  | float => "F"
  | string => "S"
  | object => "O"
  | resource => "R"
  | engine slot => "E" ++ toString slot.toNat
  | intInt => "II"
  | floatFloat => "FF"
  | objectObject => "OO"
  | stringString => "SS"
  | structStruct => "TT"
  | intFloat => "IF"
  | floatInt => "FI"
  | engineEngine slot => "E" ++ toString slot.toNat ++ "E" ++ toString slot.toNat
  | vectorVector => "VV"
  | vectorFloat => "VF"
  | floatVector => "FV"

end OperandType

end NwScript
