/-
# Instructions and statements as lines

The text of an instruction and the statement that it becomes are made of names,
numbers and at most one literal. Where no name that the script or the game gives
has a line feed, all of these fit on a line but one: the literal of a text keeps
the line feeds of its bytes, since quoting leaves them as they are. So the line
feeds in an instruction, or in its statement, are those of the text that it loads.
-/

import NwScript.Proofs.Instruction.Alphabet
import NwScript.Proofs.Text.LineFeed

namespace NwScript

open Text

/-- Every name that the script or the game gives fits on a line. -/
structure Analysis.NamesFit (a : Analysis) (game : Game) : Prop where
  subRoutines : ∀ sub ∈ a.subRoutines, ∀ name ∈ sub.name, lineFeeds name = 0
  functions : ∀ name ∈ game.functions, lineFeeds name = 0
  engineTypes : ∀ entry ∈ game.engineTypes, ∀ name ∈ entry, lineFeeds name = 0

/-- The line feeds of the literal that the bytes of an instruction hold. Only a text
has any. -/
def Instruction.literalFeeds (instr : Instruction) : Nat :=
  match instr.operandType with
  | .string | .resource => ((payload? instr.bytes).getD []).count 0x0A
  | _ => 0

/-- The line feeds of the text that an instruction loads. -/
def Instruction.innerFeeds (instr : Instruction) : Nat :=
  if instr.opcode = .const then instr.literalFeeds else 0

section Parts

variable {instr : Instruction}

/-- A literal has a line feed exactly if it is a text with one. -/
theorem Instruction.literalFeeds_pos_iff :
    0 < instr.literalFeeds ↔
      (instr.operandType = .string ∨ instr.operandType = .resource) ∧
        ∃ payload, payload? instr.bytes = some payload ∧ 0x0A ∈ payload := by
  have hpayload : 0 < ((payload? instr.bytes).getD []).count 0x0A ↔
      ∃ payload, payload? instr.bytes = some payload ∧ 0x0A ∈ payload := by
    cases payload? instr.bytes with
    | none => simp
    | some payload => simp [List.count_pos_iff]
  unfold literalFeeds
  cases instr.operandType with
  | string => simpa using hpayload
  | resource => simpa using hpayload
  | _ => simp

/-- An instruction has a line feed in it exactly if it loads a text with one. -/
theorem Instruction.innerFeeds_pos_iff :
    0 < instr.innerFeeds ↔ instr.opcode = .const ∧
      (instr.operandType = .string ∨ instr.operandType = .resource) ∧
      ∃ payload, payload? instr.bytes = some payload ∧ 0x0A ∈ payload := by
  unfold innerFeeds
  by_cases hconst : instr.opcode = .const
  · rw [if_pos hconst, literalFeeds_pos_iff]
    exact (and_iff_right hconst).symm
  · rw [if_neg hconst]
    exact iff_of_false (Nat.lt_irrefl 0) fun h => hconst h.1

/-- A text that is loaded without a line feed in it is over the other characters. -/
theorem Instruction.loadsOver_of_innerFeeds (h : instr.innerFeeds = 0) :
    instr.LoadsOver (· ≠ '\n') := by
  intro hconst htype payload hpayload
  rw [← lineFeeds_eq_zero_iff, lineFeeds_decodeLossy, List.count_eq_zero]
  intro hmem
  have hpos := Instruction.innerFeeds_pos_iff.mpr ⟨hconst, htype, payload, hpayload, hmem⟩
  omega

/-- A literal keeps the line feeds of a text; a number has none, and what stands in
the place of a literal that cannot be read has none either. -/
theorem lineFeeds_getD_constant? {instead : String} (h : Over IsInk instead) :
    lineFeeds (instr.constant?.getD instead) = instr.literalFeeds := by
  have hpayload : lineFeeds (((payload? instr.bytes).map fun payload =>
        "\"" ++ quote (decodeLossy payload) ++ "\"").getD instead) =
      ((payload? instr.bytes).getD []).count 0x0A := by
    cases payload? instr.bytes with
    | none => exact lineFeeds_of_ink h
    | some payload =>
        simp only [Option.map_some, Option.getD_some, lineFeeds_append, lineFeeds_quote,
          lineFeeds_decodeLossy]
        exact Nat.zero_add _
  by_cases htext : instr.operandType = .string ∨ instr.operandType = .resource
  · unfold Instruction.constant? Instruction.literalFeeds
    obtain htype | htype := htext <;> rw [htype] <;> exact hpayload
  · have hliteral : instr.literalFeeds = 0 := by
      by_contra hne
      exact htext (Instruction.literalFeeds_pos_iff.mp (Nat.pos_of_ne_zero hne)).1
    rw [hliteral]
    exact lineFeeds_of_ink
      (over_getD_constant? (fun _ hc => hc) h fun hother => absurd hother htext)

/-- A mnemonic fits on a line. -/
@[simp]
theorem lineFeeds_mnemonic : lineFeeds instr.mnemonic = 0 := lineFeeds_of_ink ink_mnemonic

/-- The encoding of an instruction fits on a line. -/
@[simp]
theorem lineFeeds_bytesText : lineFeeds instr.bytesText = 0 := lineFeeds_of_ink ink_bytesText

end Parts

namespace Analysis

variable {a : Analysis} {game : Game} {instr : Instruction}

/-- Where a branch leads has a name. -/
theorem hasName_of_branchTarget {name : String} (h : a.branchTarget instr = .ok name) :
    a.HasName name := by
  unfold branchTarget at h
  split at h
  · obtain ⟨target, _, hname⟩ := bind_eq_ok_iff.mp h
    exact hasName_of_targetName hname
  · cases h
    exact .inl (.jumpTarget _)

variable (fit : a.NamesFit game)

include fit

/-- Names that fit on a line are over the characters that do not end one. -/
theorem NamesFit.over : a.NamesOver game (· ≠ '\n') where
  subRoutines := fun sub hsub name hname =>
    lineFeeds_eq_zero_iff.mp (fit.subRoutines sub hsub name hname)
  functions := fun name hname => lineFeeds_eq_zero_iff.mp (fit.functions name hname)
  engineTypes := fun entry hentry name hname =>
    lineFeeds_eq_zero_iff.mp (fit.engineTypes entry hentry name hname)

/-- A name fits on a line. -/
theorem NamesFit.hasName {name : String} (h : a.HasName name) : lineFeeds name = 0 :=
  lineFeeds_eq_zero_iff.mpr (fit.over.hasName (fun _ => IsInk.ne_lineFeed) h)

/-- The name of a function fits on a line. -/
theorem NamesFit.actionName (number : Int32) : lineFeeds (actionName game number) = 0 :=
  lineFeeds_eq_zero_iff.mpr (fit.over.actionName (fun _ => IsInk.ne_lineFeed) number)

/-- A variable is declared on a line. -/
theorem NamesFit.typedName (var : Variable) : lineFeeds (var.typedName game) = 0 :=
  lineFeeds_eq_zero_iff.mpr (fit.over.typedName (fun _ => IsInk.ne_lineFeed) var)

/-- The operands of an instruction have the line feeds of the text that it loads. -/
theorem lineFeeds_operandsText {operands : String} (h : a.operandsText game instr = .ok operands) :
    lineFeeds operands = instr.innerFeeds := by
  unfold operandsText at h
  split at h
  · next hbranch =>
      have hother : instr.opcode ≠ .const := by
        intro hconst
        rw [hconst] at hbranch
        cases hbranch
      obtain ⟨target, htarget, heq⟩ := bind_eq_ok_iff.mp h
      have hname := fit.hasName (hasName_of_branchTarget htarget)
      cases heq
      rw [Instruction.innerFeeds, if_neg hother]
      split
      · exact hname
      · rw [lineFeeds_append, lineFeeds_append, hname, lineFeeds_of_ink (ink_argsText _)]
        rfl
  · split at h
    · next hconst =>
        cases h
        rw [Instruction.innerFeeds, if_pos hconst]
        exact lineFeeds_getD_constant? (ink_argsText instr.args)
    · next haction =>
        cases h
        rw [Instruction.innerFeeds, haction, if_neg (by decide), lineFeeds_append,
          lineFeeds_append, fit.actionName, lineFeeds_toString_int]
        rfl
    · next hother _ =>
        cases h
        rw [Instruction.innerFeeds, if_neg hother]
        exact lineFeeds_of_ink (ink_argsText instr.args)

/-- An instruction is written with the line feeds of the text that it loads. -/
theorem lineFeeds_instructionText {text : String} (h : a.instructionText game instr = .ok text) :
    lineFeeds text = instr.innerFeeds := by
  obtain ⟨operands, hoperands, heq⟩ := bind_eq_ok_iff.mp h
  cases heq
  rw [← lineFeeds_operandsText fit hoperands]
  split
  · next hempty =>
      rw [lineFeeds_mnemonic, String.isEmpty_iff.mp hempty]
      rfl
  · rw [lineFeeds_append, lineFeeds_append, lineFeeds_padRight, lineFeeds_mnemonic]
    exact Nat.zero_add _

/-- A statement has the line feeds of the text that its instruction loads. -/
theorem lineFeeds_statementText {form : StatementForm}
    (hform : instr.opcode.statementForm? = some form) :
    Gives (fun text => lineFeeds text = instr.innerFeeds)
      (a.statementText game instr form) := by
  by_cases hinner : instr.innerFeeds = 0
  · rw [hinner]
    have hover := over_statementText fit.over (fun _ => IsInk.ne_lineFeed) hform
      (Instruction.loadsOver_of_innerFeeds hinner)
    exact hover.weaken fun _ => lineFeeds_eq_zero_iff.mpr
  · -- What has a line feed in it is a constant.
    have hconst : instr.opcode = .const :=
      (Instruction.innerFeeds_pos_iff.mp (Nat.pos_of_ne_zero hinner)).1
    rw [statementForm?_eq_constant_iff.mpr hconst] at hform
    cases hform
    apply Ends.bind Gives.any
    intro var _
    apply Ends.pure
    rw [Instruction.innerFeeds, if_pos hconst]
    simp only [lineFeeds_append, fit.typedName, lineFeeds_getD_constant? (ink_initialText var.type)]
    exact Nat.zero_add _

end Analysis

end NwScript
