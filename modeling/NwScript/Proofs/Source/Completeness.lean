/-
# Complete blocks

A block of a well-formed script is complete if everything that it says can be
made up: its statements have all the variables that they use, its returns name
a block to return from, and its conditionals have a condition to test. These
are the blocks that can be read.
-/

import NwScript.Proofs.Resolution.Source

namespace NwScript

/-- How many variables a statement of an instruction uses. -/
def StatementForm.operandsNeeded (instr : Instruction) : StatementForm → Nat
  | constant | reserve => 1
  | copy | negation => 2
  | binary _ => 3
  | call => instr.argumentCount

/-- A block that a subroutine can return from: it has instructions, and the first
one has a variable if the stack is not empty at the last one. -/
def Block.GivesReturn (block : Block) (a : Analysis) : Prop :=
  ∃ first, block.instructions.head? = some first ∧
  ∃ last, block.instructions.getLast? = some last ∧
  ∃ entering, a.instructionAt first = .ok entering ∧
  ∃ leaving, a.instructionAt last = .ok leaving ∧
    (leaving.stack ≠ [] → entering.operands ≠ [])

/-- A block that a conditional can test: its last instruction has a variable. -/
def Block.GivesCondition (block : Block) (a : Analysis) : Prop :=
  ∃ last, block.instructions.getLast? = some last ∧
  ∃ leaving, a.instructionAt last = .ok leaving ∧ leaving.operands ≠ []

/-- The block that a conditional tests: its own one unless another is named. -/
def Analysis.conditionBlock (a : Analysis) (block : Block) (control : ControlStructure) :
    Resolved Block :=
  match control.ifCond with
  | some id => a.blockAt id
  | none => .ok block

/-- Everything that a block says can be made up. -/
structure Block.Complete (block : Block) (a : Analysis) : Prop where
  statements : ∀ id ∈ block.instructions, ∀ instr, a.instructionAt id = .ok instr →
    ∀ form, instr.opcode.statementForm? = some form →
      form.operandsNeeded instr ≤ instr.operands.length
  returns : ∀ control ∈ block.controls, control.kind = .returns →
    ∃ id, control.returnBlock = some id ∧ ∃ target, a.blockAt id = .ok target ∧
      target.GivesReturn a
  conditions : ∀ control ∈ block.controls, control.kind = .ifCond →
    ∃ condition, a.conditionBlock block control = .ok condition ∧ condition.GivesCondition a

namespace Analysis

variable {a : Analysis} (wf : a.WellFormed) (game : Game)

include wf

section Statements

variable {instr : Instruction} (hinstr : instr.WellFormed a)

include hinstr

/-- An instruction has a variable at each place that it has variables for. -/
theorem succeeds_operand (place : Nat) :
    Succeeds (a.operand instr place) ↔ place < instr.operands.length := by
  rw [operand]
  by_cases hplace : place < instr.operands.length
  · obtain ⟨var, hvar, _⟩ :=
      (wf.variableAt (hinstr.operands _ (List.getElem_mem hplace))).exists_value
    rw [List.getElem?_eq_getElem hplace]
    simp only [hvar, Outcome.ofResolved_ok, succeeds_ok, hplace]
  · rw [List.getElem?_eq_none (Nat.le_of_not_lt hplace)]
    exact iff_of_false (not_succeeds_error _) hplace

/-- A call of a function of the game is written if it has a variable for each
argument. -/
theorem succeeds_callText :
    Succeeds (a.callText game instr) ↔ instr.argumentCount ≤ instr.operands.length := by
  have harguments (target : String) : Succeeds
      (do
        let arguments ← a.argumentNames (instr.operands.take instr.argumentCount)
        return target ++ actionName game (instr.args.headD (-1)) ++ "(" ++ arguments ++ ");") := by
    rw [succeeds_bind_of_forall fun arguments => succeeds_pure _]
    apply Ends.succeeds
    apply yields_argumentNames wf
    intro v hv
    exact hinstr.operands v (List.mem_of_mem_take hv)
  rw [callText]
  by_cases hfew : instr.operands.length < instr.argumentCount
  · simp only [if_pos hfew]
    exact iff_of_false (not_succeeds_error _) (Nat.not_le_of_lt hfew)
  · have henough : instr.argumentCount ≤ instr.operands.length := Nat.le_of_not_lt hfew
    simp only [if_neg hfew, iff_true_intro henough, iff_true]
    by_cases hmore : instr.argumentCount < instr.operands.length
    · simp only [if_pos hmore]
      have hresult : Succeeds (a.operand instr (instr.operands.length - 1)) :=
        (succeeds_operand wf hinstr _).mpr (by omega)
      exact (succeeds_bind_of_forall fun result => harguments _).mpr hresult
    · simp only [if_neg hmore]
      exact harguments ""

/-- A call that has not a variable for each argument is refused before any of them
is looked up. -/
theorem callText_enough_or_refused :
    if instr.operands.length < instr.argumentCount then
      a.callText game instr = .error (.error (.tooFewVariables instr.address instr.opcode
        instr.argumentCount instr.operands.length))
    else ∃ text, a.callText game instr = .ok text := by
  by_cases hfew : instr.operands.length < instr.argumentCount
  · rw [if_pos hfew]
    rw [callText]
    simp only [if_pos hfew]
    rfl
  · rw [if_neg hfew]
    exact (succeeds_callText wf game hinstr).mpr (Nat.le_of_not_lt hfew)

/-- A statement is written if the instruction has the variables that it uses. -/
theorem succeeds_statementText (form : StatementForm) :
    Succeeds (a.statementText game instr form) ↔
      form.operandsNeeded instr ≤ instr.operands.length := by
  have hplace := succeeds_operand wf hinstr
  have hone (text : Variable → String) :
      Succeeds (do return text (← a.operand instr 0)) ↔ 1 ≤ instr.operands.length := by
    rw [succeeds_bind_of_forall fun var => succeeds_pure _, hplace]
    exact Iff.rfl
  have htwo (text : Variable → Variable → String) :
      Succeeds (do
        let first ← a.operand instr 0
        let second ← a.operand instr 1
        return text first second) ↔ 2 ≤ instr.operands.length := by
    rw [succeeds_bind_iff fun first => (succeeds_bind_of_forall fun second =>
      succeeds_pure _).trans (hplace 1), hplace]
    omega
  cases form with
  | constant => exact hone _
  | call => exact succeeds_callText wf game hinstr
  | copy => exact htwo fun source target => target.typedName game ++ " = " ++ source.name ++ ";"
  | binary operator =>
      show Succeeds (a.operand instr 0 >>= fun left => a.operand instr 1 >>= fun right =>
        a.operand instr 2 >>= fun result => pure _) ↔ 3 ≤ instr.operands.length
      rw [succeeds_bind_iff fun left => succeeds_bind_iff fun right =>
        (succeeds_bind_of_forall fun result => succeeds_pure _).trans (hplace 2), hplace, hplace]
      omega
  | negation =>
      exact htwo fun negated result => result.typedName game ++ " = !" ++ negated.name ++ ";"
  | reserve => exact hone fun var => var.typedName game ++ " = " ++ var.type.initialText ++ ";"

end Statements

section Blocks

variable {block : Block} (hblock : block.WellFormed a)

include hblock

/-- An instruction of the block is read if the statement that it may have can be
written. -/
theorem succeeds_readStatement {id : InstrId} (hid : id ∈ block.instructions) :
    Succeeds (a.readStatement game id) ↔ ∀ instr, a.instructionAt id = .ok instr →
      ∀ form, instr.opcode.statementForm? = some form →
        form.operandsNeeded instr ≤ instr.operands.length := by
  obtain ⟨instr, hfound, hinstr⟩ :=
    (wf.instructionAt (hblock.instructions id hid)).exists_value
  rw [readStatement]
  simp only [hfound, Outcome.ofResolved_ok, ok_bind, Except.ok.injEq, forall_eq']
  cases hform : instr.opcode.statementForm? with
  | none => simp
  | some form =>
      simp only [succeeds_map, Option.some.injEq, forall_eq']
      exact succeeds_statementText wf game hinstr form

variable {control : ControlStructure} (hcontrol : control ∈ block.controls)

include hcontrol

/-- A return is read if it names a block that can be returned from. -/
theorem succeeds_returnText :
    Succeeds (a.returnText block control) ↔ ∃ id, control.returnBlock = some id ∧
      ∃ target, a.blockAt id = .ok target ∧ target.GivesReturn a := by
  rw [returnText]
  cases hreturn : control.returnBlock with
  | none =>
      apply iff_of_false (not_succeeds_error _)
      rintro ⟨_, h, _⟩
      cases h
  | some id =>
      have hid : id ∈ control.blocks := by simp [ControlStructure.blocks, hreturn]
      obtain ⟨target, htarget, hgood⟩ :=
        (wf.blockAt (hblock.controls control hcontrol id hid)).exists_value
      simp only [htarget, Outcome.ofResolved_ok, ok_bind, Option.some.injEq, Except.ok.injEq,
        exists_eq_left', Block.GivesReturn]
      cases hfirst : target.instructions.head? with
      | none =>
          apply iff_of_false (not_succeeds_error _)
          rintro ⟨_, h, _⟩
          cases h
      | some first =>
          cases hlast : target.instructions.getLast? with
          | none =>
              apply iff_of_false (not_succeeds_error _)
              rintro ⟨_, _, _, h, _⟩
              cases h
          | some last =>
              obtain ⟨entering, hentering, henteringWf⟩ := (wf.instructionAt
                (hgood.instructions first (List.mem_of_head? hfirst))).exists_value
              obtain ⟨leaving, hleaving, _⟩ := (wf.instructionAt
                (hgood.instructions last (List.mem_of_getLast? hlast))).exists_value
              simp only [hentering, hleaving, Outcome.ofResolved_ok, ok_bind, Option.some.injEq,
                Except.ok.injEq, exists_eq_left']
              have hvalue := succeeds_operand wf henteringWf 0
              by_cases hempty : leaving.stack.isEmpty
              · have hstack : leaving.stack = [] := List.isEmpty_iff.mp hempty
                simp only [if_pos hempty]
                exact iff_of_true (succeeds_ok _) fun h => absurd hstack h
              · have hstack : leaving.stack ≠ [] := fun h => hempty (List.isEmpty_iff.mpr h)
                simp only [if_neg hempty]
                rw [succeeds_bind_of_forall fun value => succeeds_pure _, hvalue,
                  List.length_pos_iff]
                exact ⟨fun h _ => h, fun h => h hstack⟩

/-- A conditional is read if there is a block that it can test. -/
theorem succeeds_conditionVariable :
    Succeeds (a.conditionVariable block control) ↔
      ∃ condition, a.conditionBlock block control = .ok condition ∧
        condition.GivesCondition a := by
  -- A conditional that names no block tests the block that it is in.
  have htest {condition : Block} (hcondition : condition.WellFormed a) :
      Succeeds (a.conditionVariable condition {}) ↔ condition.GivesCondition a := by
    show Succeeds (Except.ok condition >>= _) ↔ _
    simp only [ok_bind]
    rw [Block.GivesCondition]
    cases hlast : condition.instructions.getLast? with
    | none =>
        apply iff_of_false (not_succeeds_error _)
        rintro ⟨_, h, _⟩
        cases h
    | some last =>
        obtain ⟨leaving, hleaving, hleavingWf⟩ := (wf.instructionAt
          (hcondition.instructions last (List.mem_of_getLast? hlast))).exists_value
        simp only [hleaving, Outcome.ofResolved_ok, ok_bind, Option.some.injEq,
          Except.ok.injEq, exists_eq_left']
        rw [succeeds_operand wf hleavingWf, List.length_pos_iff]
  unfold conditionVariable conditionBlock
  cases hnamed : control.ifCond with
  | none =>
      simp only [Except.ok.injEq, exists_eq_left']
      exact htest hblock
  | some id =>
      have hid : id ∈ control.blocks := by simp [ControlStructure.blocks, hnamed]
      obtain ⟨condition, hfound, hcondition⟩ :=
        (wf.blockAt (hblock.controls control hcontrol id hid)).exists_value
      simp only [hfound, Outcome.ofResolved_ok, ok_bind, Except.ok.injEq, exists_eq_left']
      exact htest hcondition

/-- A control structure is read if what it shows can be made up. -/
theorem succeeds_readClause :
    Succeeds (a.readClause block control) ↔
      (control.kind = .returns → ∃ id, control.returnBlock = some id ∧
        ∃ target, a.blockAt id = .ok target ∧ target.GivesReturn a) ∧
      (control.kind = .ifCond → ∃ condition, a.conditionBlock block control = .ok condition ∧
        condition.GivesCondition a) := by
  rw [readClause]
  cases hkind : control.kind with
  | returns =>
      rw [succeeds_bind_of_forall fun statement => succeeds_pure _,
        succeeds_returnText wf hblock hcontrol]
      simp
  | ifCond =>
      rw [succeeds_bind_of_forall fun condition => succeeds_pure _,
        succeeds_conditionVariable wf hblock hcontrol]
      simp
  | _ => simp

omit hcontrol in
/-- A block is read if it is complete. -/
theorem succeeds_readBlock : Succeeds (a.readBlock game block) ↔ block.Complete a := by
  have hcall := iff_true_intro (yields_readCall wf hblock).succeeds
  rw [readBlock, succeeds_bind_iff fun statements => succeeds_bind_iff fun call =>
    succeeds_bind_of_forall fun clauses => succeeds_pure _, hcall, true_and, succeeds_mapM,
    succeeds_mapM]
  constructor
  · rintro ⟨hstatements, hclauses⟩
    exact
      { statements := fun id hid =>
          (succeeds_readStatement wf game hblock hid).mp (hstatements id hid)
        returns := fun control hcontrol =>
          ((succeeds_readClause wf hblock hcontrol).mp (hclauses control hcontrol)).1
        conditions := fun control hcontrol =>
          ((succeeds_readClause wf hblock hcontrol).mp (hclauses control hcontrol)).2 }
  · intro hcomplete
    constructor
    · intro id hid
      exact (succeeds_readStatement wf game hblock hid).mpr (hcomplete.statements id hid)
    · intro control hcontrol
      exact (succeeds_readClause wf hblock hcontrol).mpr
        ⟨hcomplete.returns control hcontrol, hcomplete.conditions control hcontrol⟩

end Blocks

end Analysis

end NwScript
