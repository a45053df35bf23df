/-
# Codecs

A codec says how the values of a type are written as JSON and how they are read
back from a tree. Reading follows the text: what stands first in the text is
judged first. A value of the wrong type is itself read to its end before its type
is, so that a fault within it counts as a fault of the text.
-/

import NwScript.Json.Tree
import NwScript.Json.Value

namespace NwScript.Json

/-- What reading a value gives. -/
abbrev Decoded := Except Fault

/-- The text of a string so far: its bytes, latest first, and the first unit of a
surrogate pair of which the second must follow. -/
structure StringState where
  bytes : List UInt8 := []
  high : Option Nat := none

namespace StringState

/-- Put a character behind the text. -/
def push (state : StringState) (code : Nat) : StringState :=
  ⟨(String.utf8EncodeChar (Char.ofNat code)).reverse ++ state.bytes, none⟩

/-- Take the next part of a string. A unit from the range of surrogates makes a
character only together with a second one. -/
def step (state : StringState) : Fragment → Decoded StringState
  | .byte b =>
      match state.high with
      | none => .ok { state with bytes := b :: state.bytes }
      | some _ => .error .malformed
  | .unit code =>
      match state.high with
      | none =>
          if 0xDC00 ≤ code && code ≤ 0xDFFF then .error .malformed
          else if 0xD800 ≤ code && code ≤ 0xDBFF then .ok { state with high := some code }
          else .ok (state.push code)
      | some high =>
          if 0xDC00 ≤ code && code ≤ 0xDFFF then
            .ok (state.push (0x10000 + (high - 0xD800) * 0x400 + (code - 0xDC00)))
          else .error .malformed

end StringState

/-- The text of a string. Its bytes must be UTF-8, which is judged at the closing
quote. -/
def RawString.decode (s : RawString) : Decoded String := do
  let state ← s.fragments.foldlM StringState.step {}
  match s.fault? with
  | some fault => throw fault
  | none =>
      if state.high.isSome then throw .malformed
      match String.fromUTF8? ⟨state.bytes.reverse.toArray⟩ with
      | some text => return text
      | none => throw .malformed

/-- The fault of a value that has another type than the wanted one. -/
def Tree.mismatch : Tree → Fault
  | .string s =>
      match s.decode with
      | .error fault => fault
      | .ok _ => .mistyped
  | .number n => if n.outOfRange then .malformed else .mistyped
  | .null | .bool _ | .array .. | .object .. => .mistyped
  | .absent | .cutWord | .cutNumber => .truncated
  | .unexpected => .malformed

/-- How the values of a type are written and read. -/
structure Codec (α : Type) where
  encode : α → Value
  decode : Tree → Decoded α

namespace Codec

variable {α β : Type}

/-- A type whose values are those of another in another guise. -/
def via (codec : Codec α) (there : β → α) (back : α → β) : Codec β where
  encode := fun x => codec.encode (there x)
  decode := fun t => back <$> codec.decode t

/-- Truth values. -/
def bool : Codec Bool where
  encode := .bool
  decode
    | .bool value => .ok value
    | other => .error other.mismatch

/-- Texts. -/
def string : Codec String where
  encode := .string
  decode
    | .string s => s.decode
    | other => .error other.mismatch

/-- Integers, as far as `ofInt?` takes them. -/
def integer (toInt : α → Int) (ofInt? : Int → Option α) : Codec α where
  encode := fun x => .number (toInt x)
  decode
    | .number n =>
        match n.integer? >>= ofInt? with
        | some x => .ok x
        | none => .error (Tree.number n).mismatch
    | other => .error other.mismatch

/-- Natural numbers below a bound. -/
def natural (bound : Nat) (toNat : α → Nat) (ofNat : Nat → α) : Codec α :=
  integer (fun x => toNat x) fun n =>
    if 0 ≤ n ∧ n.toNat < bound then some (ofNat n.toNat) else none

/-- Bytes. -/
def uint8 : Codec UInt8 := natural UInt8.size UInt8.toNat UInt8.ofNat

/-- Words of 32 bits. -/
def uint32 : Codec UInt32 := natural UInt32.size UInt32.toNat UInt32.ofNat

/-- Words of 64 bits. -/
def uint64 : Codec UInt64 := natural UInt64.size UInt64.toNat UInt64.ofNat

/-- Signed words of 32 bits. -/
def int32 : Codec Int32 :=
  integer Int32.toInt fun n =>
    if Int32.minValue.toInt ≤ n ∧ n ≤ Int32.maxValue.toInt then some (Int32.ofInt n) else none

/-- A value that may be missing. -/
def optional (codec : Codec α) : Codec (Option α) where
  encode := Value.ofOption codec.encode
  decode
    | .null => .ok none
    | other => some <$> codec.decode other

/-- Sequences, as arrays. -/
def list (codec : Codec α) : Codec (List α) where
  encode := fun xs => .array (xs.map codec.encode)
  decode
    | .array items close => do
        let xs ← items.mapM codec.decode
        match close.fault? with
        | some fault => throw fault
        | none => return xs
    | other => .error other.mismatch

/-- Arenas, as arrays. -/
def array (codec : Codec α) : Codec (Array α) := codec.list.via Array.toList List.toArray

/-- Read a whole text, in which nothing but blanks may follow the value. -/
def decodeDocument (codec : Codec α) (document : Document) : Decoded α := do
  let x ← codec.decode document.root
  if document.trailing then throw .malformed
  return x

end Codec

end NwScript.Json
