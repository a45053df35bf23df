/-
# What the literals of floating point constants denote

Four bytes of a floating point constant are a word. If it stands for a finite number, the
constant is shown by a decimal literal with a point, so it is told from an integer, and the
literal is rounded to that very word, so it is told from every other number, zero with a
minus sign from zero without one. It is as short as it can be, and a whole number is shown
exactly.
-/

import NwScript.Proofs.Decimal.Literal
import NwScript.Proofs.Instruction.Constant

namespace NwScript

open Decimal Decimal.Binary32

/-- An integer has no point. -/
theorem point_not_mem_toString (n : Int) : '.' ∉ (toString n).toList := by
  have hdigits (n : Nat) : '.' ∉ (toString n).toList :=
    Literal.point_not_mem (Text.over_repr n)
  cases n with
  | ofNat n => exact hdigits n
  | negSucc n =>
      show '.' ∉ ("-" ++ toString (n + 1)).toList
      rw [String.toList_append, List.mem_append, not_or]
      exact ⟨by decide, hdigits (n + 1)⟩

/-- A literal with a point is not that of an integer. -/
theorem constant?_ne_literal {instr : Instruction} (type : instr.operandType = .int)
    (literal : Literal) : instr.constant? ≠ some literal.text := by
  intro h
  rw [Instruction.constant?, type] at h
  obtain ⟨word, _, htext⟩ := Option.map_eq_some_iff.mp h
  have hpoint : '.' ∈ literal.text.toList := by simp [Literal.text]
  rw [← htext] at hpoint
  exact point_not_mem_toString _ hpoint

/-- A finite floating point constant is shown by one decimal literal: digits before and behind
a point, with a minus sign or without. It is not that of an integer, it is rounded to the bits
of the constant and to no others, no other literal that is so has fewer places, or as many and
is nearer, and a whole number is shown exactly. -/
theorem constant?_float (instr : Instruction) (bits : UInt32)
    (type : instr.operandType = .float) (long : 4 ≤ instr.bytes.length)
    (loaded : bits.toNat = Nat.ofDigits 256 ((instr.bytes.take 4).map UInt8.toNat).reverse)
    (finite : pattern bits < infinity) :
    ∃ literal : Literal,
      (∀ read : Literal, instr.constant? = some read.text ↔ read = literal) ∧
      (∀ other : Instruction, other.operandType = .int →
        other.constant? ≠ some literal.text) ∧
      (∀ word, literal.RoundsTo word ↔ word = bits) ∧
      (∀ other : Literal, other.RoundsTo bits →
        literal.places.length ≤ other.places.length ∧
          (other.places.length = literal.places.length →
            |number (pattern bits) - literal.fraction.value| ≤
              |number (pattern bits) - other.fraction.value|)) ∧
      ∀ whole : Nat, number (pattern bits) = whole →
        literal.text = (if isNegative bits then "-" else "") ++ toString whole ++ ".0" := by
  have hword : word? instr.bytes = some bits := by
    rw [word?_eq, if_pos long, bigEndian_eq_ofDigits, ← loaded, UInt32.ofNat_toNat]
  have htext : instr.constant? = some (Literal.ofWord bits).text := by
    rw [Instruction.constant?, type]
    show (word? instr.bytes).map (fun word => (ofBits word).text) = _
    rw [hword, Option.map_some, Literal.text_ofWord finite]
  refine ⟨Literal.ofWord bits, fun read => ?_, fun other hint => constant?_ne_literal hint _,
    Literal.roundsTo_ofWord_iff finite, fun other => Literal.ofWord_shortest finite, ?_⟩
  · rw [htext, Option.some.injEq, Literal.text_injective.eq_iff, eq_comm]
  · intro whole hwhole
    rw [← Literal.text_ofWord finite, ofBits_eq finite, Binary32.text,
      Magnitude.text_of_number_eq hwhole, String.append_assoc]

/-- A constant that loads the greatest number below zero. A fifth byte stands behind it. -/
def leastNegative : Instruction where
  address := 13
  opcode := .const
  operandType := .float
  bytes := [0x80, 0, 0, 1, 7]

/-- The least number that is not zero has 45 places, and the literal has its sign. -/
theorem constant?_float_leastNegative :
    leastNegative.operandType = .float ∧ 4 ≤ leastNegative.bytes.length ∧
      (0x80000001 : UInt32).toNat =
        Nat.ofDigits 256 ((leastNegative.bytes.take 4).map UInt8.toNat).reverse ∧
      pattern 0x80000001 < infinity ∧
      ∃ literal : Literal,
        literal.text = "-0.000000000000000000000000000000000000000000001" ∧
        leastNegative.constant? = some literal.text ∧
        (∀ word, literal.RoundsTo word ↔ word = 0x80000001) ∧
        ∀ other : Literal, other.RoundsTo 0x80000001 →
          literal.places.length ≤ other.places.length := by
  have loaded : (0x80000001 : UInt32).toNat =
      Nat.ofDigits 256 ((leastNegative.bytes.take 4).map UInt8.toNat).reverse := by
    decide
  obtain ⟨literal, hread, _, hround, hshortest, _⟩ :=
    constant?_float leastNegative 0x80000001 rfl (by decide) loaded (by decide)
  have hshown : leastNegative.constant? = some literal.text := (hread literal).mpr rfl
  have htext : leastNegative.constant? =
      some "-0.000000000000000000000000000000000000000000001" := by
    decide +kernel
  refine ⟨rfl, by decide, loaded, by decide, literal, ?_, hshown, hround,
    fun other hother => (hshortest other hother).1⟩
  rw [htext, Option.some.injEq] at hshown
  exact hshown.symm

end NwScript
