/-
# Constants

The bytes of a constant instruction hold a literal: a number of 32 bits, a text
with its length in front, or an object. Numbers are stored with the most
significant byte first, and bytes past the end of the literal do not count.
-/

import NwScript.Decimal.Shortest
import NwScript.Graph.Basic
import NwScript.Text.Quoted
import NwScript.Text.Utf8

namespace NwScript

/-- The first bytes, if there are that many. -/
def leading? (count : Nat) (bytes : List UInt8) : Option (List UInt8) :=
  if count ≤ bytes.length then some (bytes.take count) else none

/-- The number that bytes encode, the most significant first. -/
def bigEndian (bytes : List UInt8) : Nat :=
  bytes.foldl (fun number b => number * 256 + b.toNat) 0

/-- The first four bytes as a word. -/
def word? (bytes : List UInt8) : Option UInt32 :=
  (leading? 4 bytes).map fun four => UInt32.ofNat (bigEndian four)

/-- The text at the start of the bytes: two bytes hold its length in bytes. -/
def payload? (bytes : List UInt8) : Option (List UInt8) := do
  let count := bigEndian (← leading? 2 bytes)
  leading? count (bytes.drop 2)

/-- An object is written by its number, but for two that have names. -/
def objectText (word : UInt32) : String :=
  if word = 0 then "OBJECT_SELF"
  else if word = 1 then "OBJECT_INVALID"
  else "0x" ++ Text.hex32 word

/-- The literal that the bytes of a constant hold, if they hold one. -/
def Instruction.constant? (instr : Instruction) : Option String :=
  match instr.operandType with
  | .int => (word? instr.bytes).map fun word => toString word.toInt32.toInt
  | .float => (word? instr.bytes).map fun word => (Decimal.Binary32.ofBits word).text
  | .object => (word? instr.bytes).map objectText
  | .string | .resource =>
      (payload? instr.bytes).map fun payload =>
        "\"" ++ Text.quote (Text.decodeLossy payload) ++ "\""
  | _ => none

end NwScript
