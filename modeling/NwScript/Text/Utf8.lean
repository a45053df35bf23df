/-
# Reading UTF-8 that may be broken

A byte sequence need not be UTF-8. One pass over it yields the characters it
encodes and marks each place where it encodes none: a maximal run of bytes that
begins a character but does not complete it is one such place, and so is a byte
that can begin nothing.
-/

namespace NwScript.Text

/-- A character of which the last bytes are still missing. -/
structure Partial where
  /-- The bits seen so far. -/
  value : Nat
  /-- How many bytes are missing, less one. -/
  further : Nat
  /-- The least value the next byte may have. -/
  low : UInt8
  /-- The greatest value the next byte may have. -/
  high : UInt8
  deriving DecidableEq

/-- What a byte is at the beginning of a character. -/
inductive Lead
  /-- A whole character. -/
  | whole (c : Char)
  /-- The first byte of a longer one. -/
  | opens (p : Partial)
  /-- No beginning of a character. -/
  | invalid

/-- Classify a first byte. The range of the second byte is narrowed where it
would admit an overlong form, a surrogate or a value past the last character. -/
def lead (b : UInt8) : Lead :=
  if b < 0x80 then .whole (Char.ofNat b.toNat)
  else if b < 0xC2 then .invalid
  else if b < 0xE0 then .opens ⟨b.toNat - 0xC0, 0, 0x80, 0xBF⟩
  else if b = 0xE0 then .opens ⟨0, 1, 0xA0, 0xBF⟩
  else if b = 0xED then .opens ⟨0xD, 1, 0x80, 0x9F⟩
  else if b < 0xF0 then .opens ⟨b.toNat - 0xE0, 1, 0x80, 0xBF⟩
  else if b = 0xF0 then .opens ⟨0, 2, 0x90, 0xBF⟩
  else if b < 0xF4 then .opens ⟨b.toNat - 0xF0, 2, 0x80, 0xBF⟩
  else if b = 0xF4 then .opens ⟨4, 2, 0x80, 0x8F⟩
  else .invalid

/-- Where the pass stands: what it found so far, the latest first, and the
character it is in the middle of. -/
structure Utf8State where
  found : List (Option Char) := []
  pending : Option Partial := none

namespace Utf8State

/-- Take a byte that begins something new. -/
def start (found : List (Option Char)) (b : UInt8) : Utf8State :=
  match lead b with
  | .whole c => ⟨some c :: found, none⟩
  | .opens p => ⟨found, some p⟩
  | .invalid => ⟨none :: found, none⟩

/-- Take one byte. A byte that does not continue the character at hand ends it
unfinished and begins something new itself. -/
def step (state : Utf8State) (b : UInt8) : Utf8State :=
  match state.pending with
  | none => start state.found b
  | some p =>
      if p.low ≤ b ∧ b ≤ p.high then
        let value := p.value * 64 + (b.toNat - 0x80)
        match p.further with
        | 0 => ⟨some (Char.ofNat value) :: state.found, none⟩
        | further + 1 => ⟨state.found, some ⟨value, further, 0x80, 0xBF⟩⟩
      else start (none :: state.found) b

/-- What was found, once the bytes have ended. -/
def finish (state : Utf8State) : List (Option Char) :=
  (match state.pending with
    | none => state.found
    | some _ => none :: state.found).reverse

end Utf8State

/-- The characters that the bytes encode, and `none` where they encode none. -/
def scanUtf8 (bytes : List UInt8) : List (Option Char) :=
  (bytes.foldl Utf8State.step {}).finish

/-- The bytes of a text. -/
def utf8Bytes (text : String) : List UInt8 := text.toUTF8.data.toList

/-- The bytes of a text are those of its characters. -/
theorem utf8Bytes_eq_flatMap (text : String) :
    utf8Bytes text = text.toList.flatMap String.utf8EncodeChar := by
  rw [utf8Bytes, String.toUTF8_eq_toByteArray, ← String.utf8Encode_toList, List.utf8Encode,
    List.toList_data_toByteArray]

/-- The bytes of a text behind another stand behind those of the other. -/
theorem utf8Bytes_append (first second : String) :
    utf8Bytes (first ++ second) = utf8Bytes first ++ utf8Bytes second := by
  simp [utf8Bytes_eq_flatMap]

/-- The character that stands for bytes that encode none. -/
def replacement : Char := '\uFFFD'

/-- The bytes as text, with the replacement character where they encode none. -/
def decodeLossy (bytes : List UInt8) : String :=
  String.ofList ((scanUtf8 bytes).map fun found => found.getD replacement)

end NwScript.Text
