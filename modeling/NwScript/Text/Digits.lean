/-
# Digits

Numbers written with a fixed count of digits, leading zeros included: words in
hexadecimal with capital letters, and the places of a decimal fraction.
-/

namespace NwScript.Text

/-- The digit for a value below sixteen. -/
def digitChar (value : Nat) : Char :=
  if value < 10 then Char.ofNat ('0'.toNat + value) else Char.ofNat ('A'.toNat + (value - 10))

/-- The last `width` digits of a number, the most significant first. -/
def fixedDigits (base : Nat) : (width : Nat) → Nat → List Char
  | 0, _ => []
  | width + 1, n => fixedDigits base width (n / base) ++ [digitChar (n % base)]

/-- A byte as two hexadecimal digits. -/
def hex8 (byte : UInt8) : String := String.ofList (fixedDigits 16 2 byte.toNat)

/-- A word as eight hexadecimal digits. -/
def hex32 (word : UInt32) : String := String.ofList (fixedDigits 16 8 word.toNat)

/-- Exactly as many digits are written as were asked for. -/
theorem length_fixedDigits (base width n : Nat) : (fixedDigits base width n).length = width := by
  induction width generalizing n with
  | zero => rfl
  | succ width ih => simp [fixedDigits, ih]

/-- Each digit is that of a value below the base. -/
theorem exists_of_mem_fixedDigits {base width n : Nat} (hpos : 0 < base) {c : Char}
    (h : c ∈ fixedDigits base width n) : ∃ value < base, c = digitChar value := by
  induction width generalizing n with
  | zero => cases h
  | succ width ih =>
      rw [fixedDigits, List.mem_append, List.mem_singleton] at h
      obtain hmem | rfl := h
      · exact ih hmem
      · exact ⟨n % base, Nat.mod_lt n hpos, rfl⟩

end NwScript.Text
