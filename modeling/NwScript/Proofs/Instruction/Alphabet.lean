/-
# The characters of instructions and statements

An instruction or a statement is put together from signs and numbers, which are ink,
from names, and from at most one literal. So it is over every kind of characters that
has the ink in it and that the names and the literal are over.
-/

import Mathlib
import NwScript.Instruction.Text
import NwScript.Proofs.Naming.MadeUp
import NwScript.Proofs.Text.Alphabet
import NwScript.Source.Statement

namespace NwScript

open Text

/-- Every name that the script or the game gives is over a kind of characters. -/
structure Analysis.NamesOver (a : Analysis) (game : Game) (kind : Char → Prop) : Prop where
  subRoutines : ∀ sub ∈ a.subRoutines, ∀ name ∈ sub.name, Over kind name
  functions : ∀ name ∈ game.functions, Over kind name
  engineTypes : ∀ entry ∈ game.engineTypes, ∀ name ∈ entry, Over kind name

/-- The text that an instruction loads is over a kind of characters, if it loads one. -/
def Instruction.LoadsOver (instr : Instruction) (kind : Char → Prop) : Prop :=
  instr.opcode = .const → instr.operandType = .string ∨ instr.operandType = .resource →
    ∀ payload, payload? instr.bytes = some payload → Over kind (decodeLossy payload)

section Ink

variable {instr : Instruction}

/-- Characters of names are ink. -/
theorem isInk_of_isNameChar {c : Char} (h : IsNameChar c) : IsInk c := by
  rw [isInk_iff]
  simp [IsNameChar, Char.isAlphanum, Char.isAlpha, Char.isUpper, Char.isLower, Char.isDigit,
    UInt32.le_iff_toNat_le, ← Char.toNat_inj] at h
  omega

/-- A name that is made up is ink. -/
theorem MadeUp.ink {name : String} (h : MadeUp name) : Over IsInk name :=
  Over.mono h.isNameText fun _ => isInk_of_isNameChar

/-- A number has characters of names. -/
theorem isNameText_toString_nat (n : Nat) : IsNameText (toString n) :=
  (over_repr n).mono fun c h => by simp [IsNameChar, Char.isAlphanum, h]

/-- A mnemonic has characters of names: letters, and the digits of a slot. -/
theorem isNameText_mnemonic : IsNameText instr.mnemonic := by
  have hopcode (opcode : Opcode) : Over IsNameChar opcode.name := by
    cases opcode <;> decide
  have hsuffix (type : OperandType) : Over IsNameChar type.suffix := by
    cases type with
    | engine slot =>
        rw [OperandType.suffix, over_append]
        exact ⟨by decide, isNameText_toString_nat _⟩
    | engineEngine slot =>
        simp only [OperandType.suffix, over_append]
        exact ⟨⟨⟨by decide, isNameText_toString_nat _⟩, by decide⟩, isNameText_toString_nat _⟩
    | _ => decide
  exact over_append.mpr ⟨hopcode _, hsuffix _⟩

theorem ink_mnemonic : Over IsInk instr.mnemonic :=
  Over.mono isNameText_mnemonic fun _ => isInk_of_isNameChar

/-- Plain operands are ink. -/
theorem ink_argsText (args : List Int32) : Over IsInk (argsText args) :=
  over_intercalate (by decide) (List.forall_mem_map.mpr fun arg _ => over_toString_int arg.toInt)

/-- The encoding of an instruction is ink. -/
theorem ink_bytesText : Over IsInk instr.bytesText :=
  over_intercalate (by decide) (List.forall_mem_map.mpr fun byte _ => over_hex8 byte)

/-- The name of a variable has characters of names. -/
theorem Variable.isNameText_name (var : Variable) : IsNameText var.name :=
  over_append.mpr ⟨by decide, isNameText_toString_nat var.id.toNat⟩

theorem ink_variableName (var : Variable) : Over IsInk var.name :=
  Over.mono var.isNameText_name fun _ => isInk_of_isNameChar

/-- An opcode whose instructions are written as a constant is that of constants. -/
theorem statementForm?_eq_constant_iff {opcode : Opcode} :
    opcode.statementForm? = some .constant ↔ opcode = .const := by
  cases opcode <;> simp [Opcode.statementForm?]

/-- What a new variable holds is ink. -/
theorem ink_initialText (type : VariableType) : Over IsInk type.initialText := by
  unfold VariableType.initialText
  split <;> decide

/-- Operators are ink. -/
theorem ink_operator {opcode : Opcode} {operator : String}
    (h : opcode.statementForm? = some (.binary operator)) : Over IsInk operator := by
  cases opcode <;> simp only [Opcode.statementForm?, reduceCtorEq, Option.some.injEq,
    StatementForm.binary.injEq] at h <;> subst h <;> decide

end Ink

section Names

variable {a : Analysis} {game : Game} {kind : Char → Prop} (names : a.NamesOver game kind)
  (hink : ∀ c, IsInk c → kind c)

include hink

/-- A literal is over the kind if the text that it shows is. -/
theorem over_getD_constant? {instr : Instruction} {instead : String}
    (hinstead : Over kind instead)
    (htext : instr.operandType = .string ∨ instr.operandType = .resource →
      ∀ payload, payload? instr.bytes = some payload → Over kind (decodeLossy payload)) :
    Over kind (instr.constant?.getD instead) := by
  have hword (text : UInt32 → String) (hdigits : ∀ word, Over IsInk (text word)) :
      Over kind (((word? instr.bytes).map text).getD instead) := by
    cases word? instr.bytes with
    | none => exact hinstead
    | some word => exact (hdigits word).mono hink
  have hobject (word : UInt32) : Over IsInk (objectText word) := by
    unfold objectText
    split
    · decide
    · split
      · decide
      · exact over_append.mpr ⟨by decide, over_hex32 word⟩
  have hpayload (loads : instr.operandType = .string ∨ instr.operandType = .resource) :
      Over kind (((payload? instr.bytes).map fun payload =>
        "\"" ++ quote (decodeLossy payload) ++ "\"").getD instead) := by
    cases hpayload : payload? instr.bytes with
    | none => exact hinstead
    | some payload =>
        have hquote : Over kind "\"" := Over.mono (by decide : Over IsInk "\"") hink
        have hshown := (htext loads payload hpayload).quote (hink _ (by decide))
        exact over_append.mpr ⟨over_append.mpr ⟨hquote, hshown⟩, hquote⟩
  unfold Instruction.constant?
  cases htype : instr.operandType with
  | int => exact hword _ fun word => over_toString_int _
  | float => exact hword _ fun word => over_binary32 _
  | object => exact hword _ hobject
  | string => exact hpayload (.inl htype)
  | resource => exact hpayload (.inr htype)
  | _ => exact hinstead

include names

namespace Analysis.NamesOver

/-- Every name is over the kind. -/
theorem hasName {name : String} (h : a.HasName name) : Over kind name :=
  h.of_forall (fun made => made.ink.mono hink) names.subRoutines

/-- The name of a function is over the kind. -/
theorem actionName (number : Int32) : Over kind (actionName game number) := by
  unfold NwScript.actionName
  dsimp only
  generalize hknown : (if number < 0 then none else game.function? number.toInt.toNat) = known
  cases known with
  | none =>
      exact Over.mono (over_append.mpr ⟨by decide, over_toString_int _⟩) hink
  | some name =>
      split at hknown
      · cases hknown
      · exact names.functions name (Game.mem_of_function? hknown)

/-- The name of a type is over the kind. -/
theorem typeName (type : VariableType) : Over kind (type.name game) := by
  have hfixed (name : String) (h : Over IsInk name) : Over kind name := h.mono hink
  cases type with
  | engine slot =>
      show Over kind ((game.engineType? slot.toNat).getD (slotName slot.toNat))
      cases hknown : game.engineType? slot.toNat with
      | none => exact hfixed _ (over_append.mpr ⟨by decide, over_toString_nat _⟩)
      | some name => exact names.engineTypes _ (Game.mem_of_engineType? hknown) name rfl
  | _ =>
      rw [VariableType.name]
      exact hfixed _ (by decide)

/-- A variable is declared in characters of the kind. -/
theorem typedName (var : Variable) : Over kind (var.typedName game) := by
  rw [Variable.typedName, over_append, over_append]
  exact ⟨⟨names.typeName hink _, Over.mono (by decide : Over IsInk " ") hink⟩,
    (ink_variableName var).mono hink⟩

end Analysis.NamesOver

end Names

namespace Analysis

section Statements

variable {a : Analysis} {game : Game} {instr : Instruction} {kind : Char → Prop}

/-- The names of arguments are ink. -/
theorem ink_argumentNames (ids : List VarId) : Gives (Over IsInk) (a.argumentNames ids) := by
  have hname : ∀ id ∈ ids, Gives (Over IsInk)
      (do return (← Outcome.ofResolved (a.variableAt id)).name) := by
    intro id _
    apply Ends.bind Gives.any
    intro var _
    exact Ends.pure (ink_variableName var)
  apply Ends.bind (Ends.mapM hname)
  intro names hnames
  exact Ends.pure (over_intercalate (by decide) hnames)

variable (names : a.NamesOver game kind) (hink : ∀ c, IsInk c → kind c)

include names hink

/-- A call of a function of the game is over the kind. -/
theorem over_callText : Gives (Over kind) (a.callText game instr) := by
  have hsign (text : String) (h : Over IsInk text) : Over kind text := h.mono hink
  have harguments (target : String) (htarget : Over kind target) :
      Gives (Over kind) (do
        let arguments ← a.argumentNames (instr.operands.take instr.argumentCount)
        return target ++ actionName game (instr.args.headD (-1)) ++ "(" ++ arguments ++ ");") := by
    apply Ends.bind (ink_argumentNames _)
    intro arguments hnames
    apply Ends.pure
    simp only [over_append]
    exact ⟨⟨⟨⟨htarget, names.actionName hink _⟩, hsign _ (by decide)⟩, hsign _ hnames⟩,
      hsign _ (by decide)⟩
  rw [callText]
  by_cases hfew : instr.operands.length < instr.argumentCount
  · simp only [if_pos hfew]
    trivial
  · simp only [if_neg hfew]
    by_cases hmore : instr.argumentCount < instr.operands.length
    · simp only [if_pos hmore]
      apply Ends.bind Gives.any
      intro result _
      exact harguments _ (over_append.mpr ⟨names.typedName hink result, hsign _ (by decide)⟩)
    · simp only [if_neg hmore]
      exact harguments "" over_empty

/-- A statement is over the kind if the text that its instruction loads is. -/
theorem over_statementText {form : StatementForm}
    (hform : instr.opcode.statementForm? = some form) (loads : instr.LoadsOver kind) :
    Gives (Over kind) (a.statementText game instr form) := by
  have hsign (text : String) (h : Over IsInk text) : Over kind text := h.mono hink
  have hname (var : Variable) : Over kind var.name := hsign _ (ink_variableName var)
  have hassigned (var : Variable) {value : String} (hvalue : Over kind value) :
      Over kind (var.typedName game ++ " = " ++ value ++ ";") := by
    simp only [over_append]
    exact ⟨⟨⟨names.typedName hink var, hsign _ (by decide)⟩, hvalue⟩, hsign _ (by decide)⟩
  cases form with
  | constant =>
      apply Ends.bind Gives.any
      intro var _
      exact Ends.pure (hassigned var (over_getD_constant? hink (hsign _ (ink_initialText _))
        (loads (statementForm?_eq_constant_iff.mp hform))))
  | call => exact over_callText names hink
  | copy =>
      apply Ends.bind Gives.any
      intro source _
      apply Ends.bind Gives.any
      intro target _
      exact Ends.pure (hassigned target (hname source))
  | binary operator =>
      apply Ends.bind Gives.any
      intro left _
      apply Ends.bind Gives.any
      intro right _
      apply Ends.bind Gives.any
      intro result _
      apply Ends.pure
      simp only [over_append, and_assoc]
      exact ⟨names.typedName hink result, hsign _ (by decide), hname left, hsign _ (by decide),
        hsign _ (ink_operator hform), hsign _ (by decide), hname right, hsign _ (by decide)⟩
  | negation =>
      apply Ends.bind Gives.any
      intro negated _
      apply Ends.bind Gives.any
      intro result _
      apply Ends.pure
      simp only [over_append, and_assoc]
      exact ⟨names.typedName hink result, hsign _ (by decide), hname negated,
        hsign _ (by decide)⟩
  | reserve =>
      apply Ends.bind Gives.any
      intro var _
      exact Ends.pure (hassigned var (hsign _ (ink_initialText _)))

end Statements

end Analysis

end NwScript
