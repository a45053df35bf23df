/-
# Source texts of well-formed scripts

A source text can fail to be written: an instruction may have too few variables
for its statement, or a control structure may lack a part. A well-formed script
fails in no other way. What a block says follows references that resolve, and a
walk comes only to blocks that exist: this is what every block that waits to be
written is known for, and each move keeps it.
-/

import NwScript.Proofs.Resolution.Names
import NwScript.Proofs.Source.Moves
import NwScript.Proofs.Source.Program
import NwScript.Proofs.Source.Reading

namespace NwScript.Analysis

variable {a : Analysis} (wf : a.WellFormed) (game : Game)

include wf

section Statements

variable {instr : Instruction} (hinstr : instr.WellFormed a)

include hinstr

/-- An instruction has a variable at a place, or too few variables. -/
theorem settles_operand (place : Nat) :
    (a.operand instr place).Settles fun _ => True := by
  rw [operand]
  cases hid : instr.operands[place]? with
  | none => exact ⟨_, rfl⟩
  | some id =>
      have hvar := wf.variableAt (hinstr.operands id (List.mem_of_getElem? hid))
      exact (Outcome.settles_ofResolved hvar).weaken fun _ _ => trivial

omit hinstr in
/-- Variables that exist have names. -/
theorem yields_argumentNames {ids : List VarId} (hids : ∀ v ∈ ids, v.reference.Resolves a) :
    (a.argumentNames ids).Yields fun _ => True := by
  have hnames : ∀ v ∈ ids, Outcome.Yields (fun _ => True)
      (do return (← Outcome.ofResolved (a.variableAt v)).name) := by
    intro v hv
    apply Ends.bind (Outcome.yields_ofResolved (wf.variableAt (hids v hv)))
    intro var _
    exact Ends.pure trivial
  apply Ends.bind (Ends.mapM hnames)
  intro names _
  exact Ends.pure trivial

/-- A call of a function of the game is written, or it has too few variables. -/
theorem settles_callText : (a.callText game instr).Settles fun _ => True := by
  have harguments (target : String) : Outcome.Settles (fun _ => True)
      (do
        let arguments ← a.argumentNames (instr.operands.take instr.argumentCount)
        return target ++ actionName game (instr.args.headD (-1)) ++ "(" ++ arguments ++ ");") := by
    have htaken : ∀ v ∈ instr.operands.take instr.argumentCount, v.reference.Resolves a :=
      fun v hv => hinstr.operands v (List.mem_of_mem_take hv)
    exact Ends.bind (yields_argumentNames wf htaken).settles fun _ _ => Ends.pure trivial
  rw [callText]
  by_cases hfew : instr.operands.length < instr.argumentCount
  · simp only [if_pos hfew]
    exact ⟨_, rfl⟩
  · simp only [if_neg hfew]
    by_cases hmore : instr.argumentCount < instr.operands.length
    · simp only [if_pos hmore]
      apply Ends.bind (settles_operand wf hinstr _)
      intro result _
      exact harguments (result.typedName game ++ " = ")
    · simp only [if_neg hmore]
      exact harguments ""

/-- A statement is written, or its instruction has too few variables. -/
theorem settles_statementText (form : StatementForm) :
    (a.statementText game instr form).Settles fun _ => True := by
  have hone (text : Variable → String) :
      Outcome.Settles (fun _ => True) (do return text (← a.operand instr 0)) :=
    Ends.bind (settles_operand wf hinstr 0) fun _ _ => Ends.pure trivial
  have htwo (text : Variable → Variable → String) : Outcome.Settles (fun _ => True)
      (do
        let first ← a.operand instr 0
        let second ← a.operand instr 1
        return text first second) := by
    apply Ends.bind (settles_operand wf hinstr 0)
    intro first _
    apply Ends.bind (settles_operand wf hinstr 1)
    intro second _
    exact Ends.pure trivial
  cases form with
  | constant => exact hone _
  | call => exact settles_callText wf game hinstr
  | copy => exact htwo fun source target => target.typedName game ++ " = " ++ source.name ++ ";"
  | binary operator =>
      apply Ends.bind (settles_operand wf hinstr 0)
      intro left _
      apply Ends.bind (settles_operand wf hinstr 1)
      intro right _
      apply Ends.bind (settles_operand wf hinstr 2)
      intro result _
      exact Ends.pure trivial
  | negation =>
      exact htwo fun negated result => result.typedName game ++ " = !" ++ negated.name ++ ";"
  | reserve => exact hone fun var => var.typedName game ++ " = " ++ var.type.initialText ++ ";"

end Statements

section Blocks

variable {block : Block} (hblock : block.WellFormed a)

include hblock

/-- The statement of an instruction of the block settles. -/
theorem settles_readStatement {id : InstrId} (hid : id ∈ block.instructions) :
    (a.readStatement game id).Settles fun _ => True := by
  have hfound := wf.instructionAt (hblock.instructions id hid)
  apply Ends.bind (Outcome.settles_ofResolved hfound)
  intro instr hinstr
  cases instr.opcode.statementForm? with
  | none => exact Ends.pure trivial
  | some form => exact Ends.map (settles_statementText wf game hinstr form) fun _ _ => trivial

/-- The call that the block ends in can be written. -/
theorem yields_finalCall? : (a.finalCall? block).Yields fun _ => True := by
  rw [finalCall?]
  cases hlast : block.instructions.getLast? with
  | none => exact Ends.pure trivial
  | some last =>
      have hfound := wf.instructionAt (hblock.instructions last (List.mem_of_getLast? hlast))
      apply Ends.bind (Outcome.yields_ofResolved hfound)
      intro call hcall
      cases hbranches : call.branches with
      | nil => exact Ends.pure trivial
      | cons target rest =>
          have htarget := wf.instructionAt
            (hcall.branches target (hbranches ▸ List.mem_cons_self))
          have hname : (a.instructionAt target >>= a.targetName).Yields fun _ => True :=
            Ends.bind htarget fun found hfound => yields_targetName wf hfound
          apply Ends.bind (Outcome.yields_ofResolved hname)
          intro callee _
          apply Ends.bind (yields_argumentNames wf hcall.operands)
          intro arguments _
          exact Ends.pure trivial

/-- The call that the block ends in can be read, if it is shown. -/
theorem yields_readCall : (a.readCall block).Yields fun _ => True := by
  rw [readCall]
  by_cases hcall : EdgeType.subRoutineCall ∈ block.childTypes
  · rw [if_pos hcall]
    exact yields_finalCall? wf hblock
  · rw [if_neg hcall]
    exact Ends.pure trivial

variable {control : ControlStructure} (hcontrol : control ∈ block.controls)

include hcontrol

/-- A return settles: its block exists if it is named. -/
theorem settles_returnText : (a.returnText block control).Settles fun _ => True := by
  rw [returnText]
  cases hreturn : control.returnBlock with
  | none => exact ⟨_, rfl⟩
  | some id =>
      have hid : id ∈ control.blocks := by simp [ControlStructure.blocks, hreturn]
      have hfound := wf.blockAt (hblock.controls control hcontrol id hid)
      apply Ends.bind (Outcome.settles_ofResolved hfound)
      intro target htarget
      cases hfirst : target.instructions.head? with
      | none => exact ⟨_, rfl⟩
      | some first =>
          cases hlast : target.instructions.getLast? with
          | none => exact ⟨_, rfl⟩
          | some last =>
              have hatLast := wf.instructionAt
                (htarget.instructions last (List.mem_of_getLast? hlast))
              have hatFirst := wf.instructionAt
                (htarget.instructions first (List.mem_of_head? hfirst))
              apply Ends.bind (Outcome.settles_ofResolved hatLast)
              intro leaving _
              by_cases hempty : leaving.stack.isEmpty
              · simp only [if_pos hempty]
                exact Ends.pure trivial
              · simp only [if_neg hempty]
                apply Ends.bind (Outcome.settles_ofResolved hatFirst)
                intro entering hentering
                apply Ends.bind (settles_operand wf hentering 0)
                intro value _
                exact Ends.pure trivial

/-- The variable that a conditional tests settles. -/
theorem settles_conditionVariable :
    (a.conditionVariable block control).Settles fun _ => True := by
  -- A conditional that names no block tests the block that it is in.
  have htest {condition : Block} (hcondition : condition.WellFormed a) :
      (a.conditionVariable condition {}).Settles fun _ => True := by
    show Outcome.Settles _ (Except.ok condition >>= _)
    simp only [ok_bind]
    cases hlast : condition.instructions.getLast? with
    | none => exact ⟨_, rfl⟩
    | some last =>
        have hfound := wf.instructionAt
          (hcondition.instructions last (List.mem_of_getLast? hlast))
        apply Ends.bind (Outcome.settles_ofResolved hfound)
        intro instr hinstr
        exact settles_operand wf hinstr 0
  rw [conditionVariable]
  cases hnamed : control.ifCond with
  | none => exact htest hblock
  | some id =>
      have hid : id ∈ control.blocks := by simp [ControlStructure.blocks, hnamed]
      have hfound := wf.blockAt (hblock.controls control hcontrol id hid)
      exact Ends.bind (Outcome.settles_ofResolved hfound) fun condition => htest

/-- What a control structure of the block says settles. -/
theorem settles_readClause : (a.readClause block control).Settles fun _ => True := by
  rw [readClause]
  cases control.kind with
  | returns =>
      apply Ends.bind (settles_returnText wf hblock hcontrol)
      intro statement _
      exact Ends.pure trivial
  | ifCond =>
      apply Ends.bind (settles_conditionVariable wf hblock hcontrol)
      intro condition _
      exact Ends.pure trivial
  | _ => exact Ends.pure trivial

omit hcontrol in
/-- What the block says settles. -/
theorem settles_readBlock : (a.readBlock game block).Settles fun _ => True := by
  apply Ends.bind (Ends.mapM fun id hid => settles_readStatement wf game hblock hid)
  intro statements _
  apply Ends.bind (yields_readCall wf hblock).settles
  intro call _
  apply Ends.bind (Ends.mapM fun control hcontrol => settles_readClause wf hblock hcontrol)
  intro clauses _
  exact Ends.pure trivial

end Blocks

end NwScript.Analysis

namespace NwScript

/-- Every block that waits to be written exists. -/
def Walk.Resolves (walk : Walk) (a : Analysis) : Prop :=
  ∀ id indent, Step.pending (.block id indent) ∈ walk.work → id.reference.Resolves a

namespace Analysis

variable {a : Analysis} (wf : a.WellFormed) (game : Game)

include wf

section Walks

/-- A visit of a well-formed block settles, and the blocks among what it leaves
to be written exist. -/
theorem settles_visit {block : Block} (hblock : block.WellFormed a) (id : BlockId)
    (indent : Nat) :
    (a.visit game id indent block).result.Settles fun parts =>
      ∀ child k, Pending.block child k ∈ parts → child.reference.Resolves a := by
  rw [result_visit]
  cases hread : a.readBlock game block with
  | error failure => exact (settles_readBlock wf game hblock).of_error hread
  | ok reading =>
      intro child k hchild
      apply hblock.successors
      rw [← targets_readBlock hread]
      exact Reading.mem_targets_iff.mpr ⟨k, hchild⟩

/-- Every move of a walk leaves only blocks that exist to be written. -/
theorem resolves_of_moves {walk later : Walk} (hwalk : walk.Resolves a)
    (h : Walk.Moves a game walk later) : later.Resolves a := by
  cases h with
  | text content rest opened done =>
      intro id indent hmem
      exact hwalk id indent (List.mem_cons_of_mem _ hmem)
  | close id rest opened done =>
      intro other indent hmem
      exact hwalk other indent (List.mem_cons_of_mem _ hmem)
  | skip rest done found mem =>
      intro id indent hmem
      exact hwalk id indent (List.mem_cons_of_mem _ hmem)
  | @enter id indent block parts rest opened done found fresh visited =>
      have hblock : block.WellFormed a :=
        (wf.blockAt (hwalk id indent List.mem_cons_self)).of_ok found
      have hparts := (settles_visit wf game hblock id indent).of_ok visited
      intro child k hmem
      rcases List.mem_append.mp hmem with hpart | hrest
      · obtain ⟨part, hpart, heq⟩ := List.mem_map.mp hpart
        cases heq
        exact hparts child k hpart
      · rcases List.mem_cons.mp hrest with hclose | hrest
        · cases hclose
        · exact hwalk child k (List.mem_cons_of_mem _ hrest)

/-- Where a walk stops it does not stop at a reference. -/
theorem settles_of_stops {walk : Walk} {result : Outcome Unit} {done : List (Action Piece)}
    (hwalk : walk.Resolves a) (h : Walk.Stops a game walk result done) :
    result.Settles fun _ => True := by
  cases h with
  | finished opened done => exact Ends.pure trivial
  | @lost id indent reference rest opened done found =>
      exact False.elim ((wf.blockAt (hwalk id indent List.mem_cons_self)).of_error found)
  | @incomplete id indent block failure rest opened done found fresh visited =>
      have hblock : block.WellFormed a :=
        (wf.blockAt (hwalk id indent List.mem_cons_self)).of_ok found
      exact (settles_visit wf game hblock id indent).of_error visited

/-- A walk that begins with blocks that exist never stops at a reference. -/
theorem settles_run {walk : Walk} (hwalk : walk.Resolves a) :
    (walk.run a game).result.Settles fun _ => True :=
  Walk.run_induction (fun walk => walk.Resolves a)
    (fun t => t.result.Settles fun _ => True)
    (fun _ _ hwalk hmove => resolves_of_moves wf game hwalk hmove)
    (fun _ _ _ hwalk hstop => settles_of_stops wf game hwalk hstop) walk hwalk

/-- A block and everything below it are written, or a part is missing. -/
theorem settles_printFrom {entry : BlockId} (hentry : entry.reference.Resolves a)
    (indent : Nat) : (a.printFrom game entry indent).result.Settles fun _ => True := by
  apply settles_run wf game
  intro id k hmem
  cases List.mem_singleton.mp hmem
  exact hentry

end Walks

section Programs

/-- The function of a subroutine is written, or a part is missing. -/
theorem settles_printFunction {sub : SubRoutine} (hsub : sub.WellFormed a) :
    (a.printFunction game sub).result.Settles fun _ => True := by
  have hbody : (a.functionBody game sub).result.Settles fun _ => True := by
    rw [functionBody]
    cases hblocks : sub.blocks with
    | nil => exact Ends.pure trivial
    | cons entry rest =>
        exact settles_printFrom wf game (hsub.blocks entry (hblocks ▸ List.mem_cons_self)) 1
  rw [result_printFunction]
  by_cases hseveral : 1 < sub.returns.length
  · rw [if_pos hseveral]
    exact ⟨_, rfl⟩
  · rw [if_neg hseveral]
    exact Ends.bind (Outcome.settles_ofResolved (yields_signature wf game true hsub))
      fun _ _ => hbody

/-- The whole source text is written, or a part is missing. -/
theorem settles_printProgram : (a.printProgram game).result.Settles fun _ => True := by
  have hglobals : ∀ v ∈ a.globals, (a.globalText game v).Yields fun _ => True := by
    intro v hv
    apply Ends.bind (wf.variableAt (wf.globals v hv))
    intro var _
    exact Ends.pure trivial
  rw [result_printProgram]
  apply Ends.bind
  · apply Ends.forM
    intro v hv
    exact Ends.bind (Outcome.settles_ofResolved (hglobals v hv)) fun _ _ => Ends.pure trivial
  · intro _ _
    apply Ends.forM
    intro sub hsub
    exact settles_printFunction wf game (wf.subRoutines sub (Array.mem_toList_iff.mp hsub))

/-- Writing the source text of a well-formed script ends with a text or with an
error, and never at a reference that leads nowhere. -/
theorem settles_printSource : (a.printSource game).result.Settles fun _ => True := by
  rw [result_printSource]
  by_cases hstack : a.carries .stack = false
  · rw [if_pos hstack]
    exact ⟨_, rfl⟩
  · rw [if_neg hstack]
    by_cases hflow : a.carries .controlFlow = false
    · rw [if_pos hflow]
      exact ⟨_, rfl⟩
    · rw [if_neg hflow]
      exact settles_printProgram wf game

end Programs

end Analysis

end NwScript
