/-
# Numbers read from their digits

A number that is written with a fixed count of digits is read back from them, but for
what they do not show of it. So a byte is known by its two hexadecimal digits and an
address by its eight, and the decimal places of a number continue its whole part.
-/

import Mathlib
import NwScript.Text.Digits

namespace NwScript.Text

/-- The value of a hexadecimal digit. -/
def hexValue? (c : Char) : Option Nat :=
  if '0' ≤ c ∧ c ≤ '9' then some (c.toNat - '0'.toNat)
  else if 'A' ≤ c ∧ c ≤ 'F' then some (c.toNat - 'A'.toNat + 10)
  else if 'a' ≤ c ∧ c ≤ 'f' then some (c.toNat - 'a'.toNat + 10)
  else none

/-- The number that hexadecimal digits are, the most significant first. -/
def hexNumber? (digits : List Char) : Option Nat :=
  digits.foldlM (fun n c => (16 * n + ·) <$> hexValue? c) 0

/-- The byte that two digits are. -/
def hexByte? (digits : List Char) : Option UInt8 :=
  if digits.length = 2 then UInt8.ofNat <$> hexNumber? digits else none

/-- The word that eight digits are. -/
def hexWord? (digits : List Char) : Option UInt32 :=
  if digits.length = 8 then UInt32.ofNat <$> hexNumber? digits else none

/-- A digit is read as the value that it is written for. -/
theorem hexValue?_digitChar : ∀ value < 16, hexValue? (digitChar value) = some value := by
  decide

/-- Digits are read as the number that they are the last digits of. -/
theorem hexNumber?_fixedDigits (width n : Nat) :
    hexNumber? (fixedDigits 16 width n) = some (n % 16 ^ width) := by
  induction width generalizing n with
  | zero => rw [Nat.pow_zero, Nat.mod_one]; rfl
  | succ width ih =>
      have hfirst := ih (n / 16)
      have hlast := hexValue?_digitChar (n % 16) (Nat.mod_lt n (by decide))
      rw [hexNumber?] at hfirst ⊢
      rw [fixedDigits, List.foldlM_append, hfirst, Nat.pow_succ', Nat.mod_mul, Nat.add_comm]
      simp [hlast]

/-- Decimal digits of a fixed count are read as such digits behind those of another number. -/
theorem ofDigitChars_fixedDigits (width n before : Nat) :
    Nat.ofDigitChars 10 (fixedDigits 10 width n) before = 10 ^ width * before + n % 10 ^ width := by
  induction width generalizing n with
  | zero => simp [fixedDigits, Nat.mod_one]
  | succ width ih =>
      have hlast : ∀ value < 10, (digitChar value).toNat - '0'.toNat = value := by
        decide
      rw [fixedDigits, Nat.ofDigitChars_append, ih, Nat.ofDigitChars_cons, Nat.ofDigitChars_nil,
        hlast _ (Nat.mod_lt n (by decide)), Nat.pow_succ', Nat.mod_mul]
      ring

/-- A byte is read back from its digits. -/
theorem hexByte?_hex8 (byte : UInt8) : hexByte? (hex8 byte).toList = some byte := by
  have hlt : byte.toNat < 16 ^ 2 := byte.toNat_lt
  rw [hex8, String.toList_ofList, hexByte?, if_pos (length_fixedDigits 16 2 _),
    hexNumber?_fixedDigits, Nat.mod_eq_of_lt hlt]
  exact congrArg some UInt8.ofNat_toNat

/-- A word is read back from its digits. -/
theorem hexWord?_hex32 (word : UInt32) : hexWord? (hex32 word).toList = some word := by
  have hlt : word.toNat < 16 ^ 8 := word.toNat_lt
  rw [hex32, String.toList_ofList, hexWord?, if_pos (length_fixedDigits 16 8 _),
    hexNumber?_fixedDigits, Nat.mod_eq_of_lt hlt]
  exact congrArg some UInt32.ofNat_toNat

/-- Two words with the same digits are the same word. -/
theorem hex32_inj {first second : UInt32} (h : hex32 first = hex32 second) : first = second := by
  have hread := hexWord?_hex32 first
  rw [h, hexWord?_hex32] at hread
  exact (Option.some.inj hread).symm

end NwScript.Text
