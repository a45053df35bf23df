/-
# Names of well-formed scripts

In a well-formed analysis every name can be made up: labels, signatures and the
texts of instructions follow references that resolve, from a branch to its
target, from there to a block, and from the block to its subroutine. Each
function that follows references is shown to come to a value, from the same
fact about the functions it calls.
-/

import NwScript.Instruction.Text
import NwScript.Naming.Signature
import NwScript.Proofs.Graph.WellFormed

namespace NwScript.Analysis

variable {a : Analysis} (wf : a.WellFormed) (game : Game)

include wf

section Labels

/-- A block without instructions has no first one; any other has a well-formed
one. -/
theorem yields_firstInstruction? {block : Block} (hblock : block.WellFormed a) :
    (a.firstInstruction? block).Yields fun first => ∀ instr ∈ first, instr.WellFormed a := by
  rw [firstInstruction?]
  cases hinstrs : block.instructions with
  | nil =>
      apply Ends.pure
      intro instr hinstr
      cases hinstr
  | cons first rest =>
      have hfirst := hblock.instructions first (hinstrs ▸ List.mem_cons_self)
      apply Ends.map (wf.instructionAt hfirst)
      intro value hvalue instr hinstr
      cases hinstr
      exact hvalue

/-- The first instruction of a subroutine, if it has any, is well-formed. -/
theorem yields_entryInstruction? {sub : SubRoutine} (hsub : sub.WellFormed a) :
    (a.entryInstruction? sub).Yields fun first => ∀ instr ∈ first, instr.WellFormed a := by
  rw [entryInstruction?]
  cases hblocks : sub.blocks with
  | nil =>
      apply Ends.pure
      intro instr hinstr
      cases hinstr
  | cons first rest =>
      have hfirst := hsub.blocks first (hblocks ▸ List.mem_cons_self)
      apply Ends.bind (wf.blockAt hfirst)
      intro block hblock
      exact yields_firstInstruction? wf hblock

/-- An instruction that is in a block is in a subroutine that exists. -/
theorem yields_subRoutineOf? {instr : Instruction} (hinstr : instr.WellFormed a) :
    (a.subRoutineOf? instr).Yields fun sub => ∀ id ∈ sub, id.reference.Resolves a := by
  rw [subRoutineOf?]
  cases hblock : instr.block with
  | none =>
      apply Ends.pure
      intro id hid
      cases hid
  | some id =>
      apply Ends.bind (wf.blockAt (hinstr.block id hblock))
      intro block hblock
      apply Ends.pure
      intro sub hsub
      cases hsub
      exact hblock.subRoutine

/-- Every instruction can be labelled. -/
theorem yields_label? {instr : Instruction} (hinstr : instr.WellFormed a) :
    (a.label? instr).Yields fun _ => True := by
  rw [label?]
  cases instr.addressType with
  | none => exact Ends.pure trivial
  | jumpLabel => exact Ends.pure trivial
  | storeState => exact Ends.pure trivial
  | subRoutine =>
      apply Ends.bind (yields_subRoutineOf? wf hinstr)
      intro found hfound
      cases found with
      | none => exact Ends.pure trivial
      | some id =>
          apply Ends.bind (wf.subRoutineAt (hfound id rfl))
          intro sub _
          exact Ends.pure trivial

/-- The instruction at an entry, if there is one, can be labelled. -/
theorem yields_entryLabel? {first : Option Instruction}
    (hfirst : ∀ instr ∈ first, instr.WellFormed a) :
    (a.entryLabel? first).Yields fun _ => True := by
  cases first with
  | none => exact Ends.pure trivial
  | some instr => exact yields_label? wf (hfirst instr rfl)

/-- Every block can be labelled. -/
theorem yields_blockLabel? {block : Block} (hblock : block.WellFormed a) :
    (a.blockLabel? block).Yields fun _ => True :=
  Ends.bind (yields_firstInstruction? wf hblock) fun _ hfirst => yields_entryLabel? wf hfirst

/-- Every subroutine can be labelled. -/
theorem yields_subRoutineLabel? {sub : SubRoutine} (hsub : sub.WellFormed a) :
    (a.subRoutineLabel? sub).Yields fun _ => True :=
  Ends.bind (yields_entryInstruction? wf hsub) fun _ hfirst => yields_entryLabel? wf hfirst

/-- Every jump target can be named. -/
theorem yields_targetName {instr : Instruction} (hinstr : instr.WellFormed a) :
    (a.targetName instr).Yields fun _ => True :=
  Ends.bind (yields_label? wf hinstr) fun _ _ => Ends.pure trivial

end Labels

section Signatures

/-- Every subroutine has a type that it returns. -/
theorem yields_returnTypeName {sub : SubRoutine} (hsub : sub.WellFormed a) :
    (a.returnTypeName game sub).Yields fun _ => True := by
  rw [returnTypeName]
  cases hreturns : sub.returns with
  | nil => exact Ends.pure trivial
  | cons first rest =>
      have hfirst := hsub.returns first (hreturns ▸ List.mem_cons_self)
      apply Ends.bind (wf.variableAt hfirst)
      intro var _
      exact Ends.pure trivial

/-- Every parameter of a subroutine can be declared. -/
theorem yields_parameterTexts (withNames : Bool) {sub : SubRoutine} (hsub : sub.WellFormed a) :
    Resolved.Yields (fun _ => True) (sub.params.mapM (a.parameterText game withNames)) := by
  have hparams : ∀ v ∈ sub.params,
      (a.parameterText game withNames v).Yields fun _ => True := by
    intro v hv
    apply Ends.bind (wf.variableAt (hsub.params v hv))
    intro var _
    exact Ends.pure trivial
  exact Ends.weaken (Ends.mapM hparams) fun _ _ => trivial

/-- Every subroutine can be declared, with names for its parameters or without. -/
theorem yields_signature (withNames : Bool) {sub : SubRoutine} (hsub : sub.WellFormed a) :
    (a.signature game withNames sub).Yields fun _ => True := by
  rw [signature]
  apply Ends.bind (yields_subRoutineLabel? wf hsub)
  intro label _
  apply Ends.bind (yields_returnTypeName wf game hsub)
  intro result _
  apply Ends.bind (yields_parameterTexts wf game withNames hsub)
  intro params _
  exact Ends.pure trivial

/-- Every signature that is known can be shown. -/
theorem yields_knownSignature? {sub : SubRoutine} (hsub : sub.WellFormed a) :
    (a.knownSignature? game sub).Yields fun _ => True := by
  rw [knownSignature?]
  split
  · exact Ends.map (yields_signature wf game false hsub) fun _ _ => trivial
  · exact Ends.pure trivial

/-- Every signature that is known can be shown for the index of its subroutine. -/
theorem yields_knownSignatureAt? {id : SubId} (hid : id.reference.Resolves a) :
    (a.knownSignatureAt? game id).Yields fun _ => True := by
  rw [knownSignatureAt?]
  split
  · apply Ends.bind (wf.subRoutineAt hid)
    intro sub hsub
    exact yields_knownSignature? wf game hsub
  · exact Ends.pure trivial

end Signatures

section Instructions

/-- Every branch leads somewhere that can be named. -/
theorem yields_branchTarget {instr : Instruction} (hinstr : instr.WellFormed a) :
    (a.branchTarget instr).Yields fun _ => True := by
  rw [branchTarget]
  cases hbranches : instr.branches with
  | nil => exact Ends.pure trivial
  | cons target rest =>
      have htarget := hinstr.branches target (hbranches ▸ List.mem_cons_self)
      apply Ends.bind (wf.instructionAt htarget)
      intro found hfound
      exact yields_targetName wf hfound

/-- The operands of every instruction can be written. -/
theorem yields_operandsText {instr : Instruction} (hinstr : instr.WellFormed a) :
    (a.operandsText game instr).Yields fun _ => True := by
  rw [operandsText]
  split
  · apply Ends.bind (yields_branchTarget wf hinstr)
    intro target _
    exact Ends.pure trivial
  · split
    · exact Ends.pure trivial
    · exact Ends.pure trivial
    · exact Ends.pure trivial

/-- Every instruction can be written. -/
theorem yields_instructionText {instr : Instruction} (hinstr : instr.WellFormed a) :
    (a.instructionText game instr).Yields fun _ => True :=
  Ends.bind (yields_operandsText wf game hinstr) fun _ _ => Ends.pure trivial

end Instructions

end NwScript.Analysis
