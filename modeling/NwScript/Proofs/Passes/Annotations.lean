/-
# Source texts without idle annotations

A block carries an annotation for each control structure that it plays a part in,
and an annotation has a field for each block that some structure may name. A source
text shows returns and conditionals, and of these it follows a few of the fields.
`Analysis.prune` takes all others out: the annotations of loops and branches, and in
those that remain every block that no text is made of. What is read of a block is
the same before and after, so the recursion over the blocks is the same, and with it
the text or the error.
-/

import Mathlib
import NwScript.Proofs.Passes.Forms
import NwScript.Proofs.Source.Outline
import NwScript.Proofs.Source.Program

namespace NwScript

/-- What a source text shows of an annotation: the block of a return, the condition
and the branches of a conditional, and nothing of any other. -/
def ControlStructure.shown? (control : ControlStructure) : Option ControlStructure :=
  match control.kind with
  | .returns => some { kind := .returns, returnBlock := control.returnBlock }
  | .ifCond =>
      some {
        kind := .ifCond
        ifCond := control.ifCond
        ifTrue := control.ifTrue
        ifElse := control.ifElse
        ifNext := control.ifNext }
  | _ => none

/-- A block without the annotations that a source text does not show. -/
def Block.prune (block : Block) : Block :=
  { block with controls := block.controls.filterMap ControlStructure.shown? }

/-- A script without the annotations that its source text does not show. -/
def Analysis.prune (a : Analysis) : Analysis := { a with blocks := a.blocks.map Block.prune }

/-- The blocks of what is shown are among those of the annotation. -/
theorem ControlStructure.mem_blocks_of_shown? {control shown : ControlStructure}
    (h : control.shown? = some shown) {id : BlockId} (hid : id ∈ shown.blocks) :
    id ∈ control.blocks := by
  unfold shown? at h
  split at h <;> cases h <;> simp [blocks] at hid ⊢ <;> tauto

namespace Analysis

variable {a : Analysis} {game : Game}

/-- Pruning adds no record and takes none away. -/
theorem arenaSize_prune : a.prune.arenaSize = a.arenaSize := by
  funext arena
  cases arena <;> simp [arenaSize, prune]

/-- A script that is accepted is accepted without idle annotations as well: the blocks
that are still named were named before. -/
theorem WellFormed.prune (wf : a.WellFormed) : a.prune.WellFormed where
  instructions := fun instr hinstr =>
    (wf.instructions instr hinstr).of_arenaSize_eq arenaSize_prune.symm
  vars := fun index var hvar => (wf.vars index var hvar).of_arenaSize_eq arenaSize_prune.symm
  blocks := by
    intro pruned hpruned
    obtain ⟨block, hblock, rfl⟩ := Array.mem_map.mp hpruned
    have hwf := (wf.blocks block hblock).of_arenaSize_eq arenaSize_prune.symm
    refine { hwf with controls := ?_ }
    intro shown hshown id hid
    obtain ⟨control, hcontrol, heq⟩ := List.mem_filterMap.mp hshown
    exact hwf.controls control hcontrol id (ControlStructure.mem_blocks_of_shown? heq hid)
  subRoutines := fun sub hsub =>
    (wf.subRoutines sub hsub).of_arenaSize_eq arenaSize_prune.symm
  globals := fun v hv => (Reference.resolves_congr arenaSize_prune).mpr (wf.globals v hv)

section Names

/-- Nothing that the control flow recovery did not find is taken out. -/
theorem forget_prune : a.prune.forget .controlFlow = a.forget .controlFlow := by
  simp [forget, prune, Function.comp_def, Block.forget, Block.prune]

/-- An instruction keeps its label. -/
theorem label?_prune (instr : Instruction) : a.prune.label? instr = a.label? instr := by
  have hpruned := label?_forget .controlFlow a.prune instr
  rw [forget_prune, label?_forget] at hpruned
  exact hpruned.symm

/-- A function keeps its declaration. -/
theorem signature_prune (withNames : Bool) (sub : SubRoutine) :
    a.prune.signature game withNames sub = a.signature game withNames sub := by
  have hpruned := signature_forgetFlow (a := a.prune) game withNames sub
  rw [forget_prune, signature_forgetFlow] at hpruned
  exact hpruned.symm

end Names

section Blocks

variable (block : Block) (control : ControlStructure)

theorem blockAt_prune (id : BlockId) : a.prune.blockAt id = Block.prune <$> a.blockAt id := by
  simp only [blockAt, prune, Array.getElem?_map]
  cases a.blocks[id.index.toNat]? <;> rfl

/-- A return is the same: it looks at the instructions of its block only. -/
theorem returnText_prune : a.prune.returnText block.prune control = a.returnText block control := by
  unfold returnText
  cases control.returnBlock with
  | none => rfl
  | some id =>
      simp only [blockAt_prune]
      cases a.blockAt id <;> rfl

/-- So is a condition. -/
theorem conditionVariable_prune :
    a.prune.conditionVariable block.prune control = a.conditionVariable block control := by
  unfold conditionVariable
  cases control.ifCond with
  | none => rfl
  | some id =>
      simp only [blockAt_prune]
      cases a.blockAt id <;> rfl

/-- An annotation says the same of a block without idle annotations. -/
theorem readClause_prune :
    a.prune.readClause block.prune control = a.readClause block control := by
  simp only [readClause, returnText_prune, conditionVariable_prune]

/-- What is shown of an annotation says what the annotation says; where nothing is
shown, nothing is said. -/
theorem readClause_shown? :
    a.readClause block control =
      match control.shown? with
      | some shown => a.readClause block shown
      | none => pure none := by
  cases hkind : control.kind <;> simp [readClause, ControlStructure.shown?, hkind] <;> rfl

/-- The annotations that are shown say together what all of them say. -/
theorem readClauses_shown (controls : List ControlStructure) :
    (fun clauses => clauses.filterMap fun clause => clause) <$>
        (controls.filterMap ControlStructure.shown?).mapM (a.readClause block) =
      (fun clauses => clauses.filterMap fun clause => clause) <$>
        controls.mapM (a.readClause block) := by
  have hcons (control : ControlStructure) (rest : List ControlStructure) :
      (fun clauses => clauses.filterMap fun clause => clause) <$>
          (control :: rest).mapM (a.readClause block) = (do
        let clause ← a.readClause block control
        let clauses ← (fun clauses => clauses.filterMap fun clause => clause) <$>
          rest.mapM (a.readClause block)
        return clause.toList ++ clauses) := by
    rw [List.mapM_cons]
    simp only [map_eq_pure_bind, bind_assoc, pure_bind]
    apply bind_congr
    intro clause
    cases clause <;> simp
  induction controls with
  | nil => rfl
  | cons control rest ih =>
      rw [hcons, readClause_shown? block control, List.filterMap_cons, ← ih]
      cases control.shown? with
      | none => simp
      | some shown => exact hcons shown _

/-- A call is the same: it is named after the instruction that it jumps to. -/
theorem readCall_prune : a.prune.readCall block.prune = a.readCall block := by
  have hnames : a.prune.targetName = a.targetName := by
    funext instr
    rw [targetName, targetName, label?_prune]
  simp only [readCall, finalCall?]
  rw [hnames]
  rfl

/-- A block says the same without its idle annotations. -/
theorem readBlock_prune : a.prune.readBlock game block.prune = a.readBlock game block := by
  have hclause : a.prune.readClause block.prune = a.readClause block :=
    funext (readClause_prune block)
  have hclauses (make : List Clause → Reading) :
      (do
        let clauses ← (block.controls.filterMap ControlStructure.shown?).mapM
          (a.readClause block)
        return make (clauses.filterMap fun clause => clause)) = (do
        let clauses ← block.controls.mapM (a.readClause block)
        return make (clauses.filterMap fun clause => clause)) := by
    have hmake := congrArg (make <$> ·) (readClauses_shown (a := a) block block.controls)
    simpa only [map_eq_pure_bind, bind_assoc, pure_bind] using hmake
  unfold readBlock
  rw [readCall_prune, hclause]
  apply bind_congr
  intro statements
  apply bind_congr
  intro call
  exact hclauses fun clauses => ⟨_, call, block.afterCall?, clauses⟩

end Blocks

/-- A block and all that is below it are written the same. -/
theorem outline_prune (opened : List BlockId) (indent : Nat) (id : BlockId) :
    a.prune.outline game opened indent id = a.outline game opened indent id := by
  induction opened, indent, id using outline.induct a with
  | case1 opened indent id reference found =>
      have hpruned : a.prune.blockAt id = .error reference := by rw [blockAt_prune, found]; rfl
      rw [outline_of_error found, outline_of_error hpruned]
  | case2 opened indent id block found mem =>
      have hpruned : a.prune.blockAt id = .ok block.prune := by rw [blockAt_prune, found]; rfl
      rw [outline_of_mem found mem, outline_of_mem hpruned mem]
  | case3 opened indent id block found fresh ih =>
      have hpruned : a.prune.blockAt id = .ok block.prune := by rw [blockAt_prune, found]; rfl
      have hbelow : a.prune.outline game (id :: opened) = a.outline game (id :: opened) := by
        funext k child
        exact ih k child
      rw [outline_of_not_mem found fresh, outline_of_not_mem hpruned fresh, readBlock_prune, hbelow]

/-- A source text has the same pieces, or lacks the same part. -/
theorem pieces_printProgram_prune :
    (a.prune.printProgram game).pieces = (a.printProgram game).pieces := by
  have hbody (sub : SubRoutine) :
      (a.prune.functionBody game sub).pieces = (a.functionBody game sub).pieces := by
    rw [functionBody, functionBody]
    cases sub.blocks with
    | nil => rfl
    | cons entry rest =>
        show (a.prune.printFrom game entry 1).pieces = (a.printFrom game entry 1).pieces
        rw [pieces_printFrom, pieces_printFrom, outline_prune]
  have hfunction (sub : SubRoutine) :
      (a.prune.printFunction game sub).pieces = (a.printFunction game sub).pieces := by
    rw [pieces_printFunction, pieces_printFunction, signature_prune, hbody]
  rw [pieces_printProgram, pieces_printProgram]
  simp only [hfunction]
  rfl

/-- A source text is made of the returns and the conditionals of the blocks, and of these
only of the blocks that a return or a conditional needs. Without all other annotations, and
without the other fields of these, it is the same text or the same error, and a sink is
given the same. An accepted script stays accepted. -/
theorem source_of_prune (a : Analysis) (game : Game) :
    (a.prune.printSource game).text = (a.printSource game).text ∧
      (a.prune.printSource game).outputs = (a.printSource game).outputs ∧
      (a.check = .ok () → a.prune.check = .ok ()) := by
  have htext : (a.prune.printSource game).text = (a.printSource game).text := by
    rw [text_printSource, text_printSource, pieces_printProgram_prune]
    rfl
  refine ⟨htext, ?_, ?_⟩
  · rw [outputs_printSource, outputs_printSource, htext]
  · intro accepted
    exact check_eq_ok_iff_wellFormed.mpr (check_eq_ok_iff_wellFormed.mp accepted).prune

/-- A conditional in a loop, with a break in its branch and a return behind it. Its blocks
are annotated with the parts that they play in the loop, and both the conditional and the
return name blocks of the loop as well. -/
def annotatedLoop : Analysis where
  instructions := #[
    { address := 13, opcode := .rsAdd, operandType := .int, operands := [⟨0⟩]
      block := some ⟨0⟩ },
    { address := 15, opcode := .jmp, branches := [⟨2⟩], block := some ⟨1⟩ },
    { address := 21, opcode := .retn, block := some ⟨2⟩ }]
  blocks := #[
    { address := 13, instructions := [⟨0⟩], subRoutine := ⟨0⟩
      controls := [
        { kind := .whileHead, loopHead := some ⟨0⟩, loopTail := some ⟨1⟩ },
        { kind := .ifCond, ifTrue := some ⟨1⟩, ifNext := some ⟨2⟩, loopHead := some ⟨0⟩ }] },
    { address := 15, instructions := [⟨1⟩], subRoutine := ⟨0⟩
      controls := [{ kind := .breaks, loopBreak := some ⟨2⟩ }, { kind := .ifTrue }] },
    { address := 21, instructions := [⟨2⟩], subRoutine := ⟨0⟩
      controls := [{ kind := .returns, returnBlock := some ⟨2⟩, ifTrue := some ⟨0⟩ }] }]
  subRoutines := #[{ address := 13, blocks := [⟨0⟩, ⟨1⟩, ⟨2⟩], name := some "main" }]
  vars := #[{ id := 1, type := .int }]
  hasStackAnalysis := true
  hasControlFlow := true

/-- Of the loop nothing is left but its conditional and its return, and these make the
text. -/
theorem source_of_prune_annotatedLoop :
    annotatedLoop.check = .ok () ∧ annotatedLoop.prune.check = .ok () ∧
      annotatedLoop.prune.blocks.toList.flatMap Block.controls =
        [{ kind := .ifCond, ifTrue := some ⟨1⟩, ifNext := some ⟨2⟩ },
          { kind := .returns, returnBlock := some ⟨2⟩ }] ∧
      (annotatedLoop.prune.printSource {}).text =
        .ok ("// Decompiled using ncsdis\n\n\nvoid main() \x7b\n\tint var_1 = 0;\n" ++
          "\tif (var_1) \x7b\n\t\x7d\n\treturn;\n\x7d\n") := by
  have accepted : annotatedLoop.check = .ok () := rfl
  obtain ⟨htext, _, haccepted⟩ := source_of_prune annotatedLoop {}
  refine ⟨accepted, haccepted accepted, by decide +kernel, ?_⟩
  rw [htext]
  cbv

end Analysis

end NwScript
