/-
# Well-formed analyses

What the check of an analysis establishes, said record by record and without
the list of obligations that the check goes through: every reference leads into
its arena, every child has an edge type, and no variable is its own sibling. An
analysis is accepted exactly if it is well-formed.
-/

import NwScript.Graph.Obligation
import NwScript.Proofs.Outcome

namespace NwScript

/-- The index of a reference lies in the arena that it points into. -/
def Reference.Resolves (reference : Reference) (a : Analysis) : Prop :=
  reference.index.toNat < a.arenaSize reference.arena

/-- Every reference that an instruction makes resolves. -/
structure Instruction.WellFormed (instr : Instruction) (a : Analysis) : Prop where
  operands : ∀ v ∈ instr.operands, v.reference.Resolves a
  stack : ∀ v ∈ instr.stack, v.reference.Resolves a
  branches : ∀ i ∈ instr.branches, i.reference.Resolves a
  follower : ∀ i ∈ instr.follower, i.reference.Resolves a
  block : ∀ b ∈ instr.block, b.reference.Resolves a

/-- Every reference that the variable at an index makes resolves, and none of
them leads back to it as a sibling. -/
structure Variable.WellFormed (index : Nat) (var : Variable) (a : Analysis) : Prop where
  notOwnSibling : ∀ s ∈ var.siblings.toList, s.index.toNat ≠ index
  siblings : ∀ s ∈ var.siblings.toList, s.reference.Resolves a
  creator : ∀ i ∈ var.creator, i.reference.Resolves a

/-- Every reference that a block makes resolves, those of its control
structures included, and every child has an edge type. -/
structure Block.WellFormed (block : Block) (a : Analysis) : Prop where
  edgesTyped : block.children.length = block.childTypes.length
  subRoutine : block.subRoutine.reference.Resolves a
  instructions : ∀ i ∈ block.instructions, i.reference.Resolves a
  children : ∀ b ∈ block.children, b.reference.Resolves a
  controls : ∀ control ∈ block.controls, ∀ b ∈ control.blocks, b.reference.Resolves a

/-- Every reference that a subroutine makes resolves. -/
structure SubRoutine.WellFormed (sub : SubRoutine) (a : Analysis) : Prop where
  blocks : ∀ b ∈ sub.blocks, b.reference.Resolves a
  params : ∀ v ∈ sub.params, v.reference.Resolves a
  returns : ∀ v ∈ sub.returns, v.reference.Resolves a
  returnSites : ∀ i ∈ sub.returnSites, i.reference.Resolves a

/-- Every part of an analysis is well-formed. -/
structure Analysis.WellFormed (a : Analysis) : Prop where
  instructions : ∀ instr ∈ a.instructions, instr.WellFormed a
  vars : ∀ (index : Nat) (var : Variable), a.vars[index]? = some var → var.WellFormed index a
  blocks : ∀ block ∈ a.blocks, block.WellFormed a
  subRoutines : ∀ sub ∈ a.subRoutines, sub.WellFormed a
  globals : ∀ v ∈ a.globals, v.reference.Resolves a

section Obligations

variable {a : Analysis}

/-- An instruction is well-formed if it meets its obligations. -/
theorem Instruction.wellFormed_iff {instr : Instruction} :
    instr.WellFormed a ↔ ∀ o ∈ instr.obligations, o.Holds a := by
  simp only [obligations, List.mem_append, List.mem_map, Option.mem_toList]
  constructor
  · rintro ⟨operands, stack, branches, follower, block⟩
    rintro o ((⟨v, hv, rfl⟩ | ⟨i, hi, rfl⟩) | ⟨b, hb, rfl⟩)
    · exact hv.elim (operands v) (stack v)
    · exact hi.elim (branches i) (follower i)
    · exact block b hb
  · intro h
    exact
      { operands := fun v hv => h _ (.inl (.inl ⟨v, .inl hv, rfl⟩))
        stack := fun v hv => h _ (.inl (.inl ⟨v, .inr hv, rfl⟩))
        branches := fun i hi => h _ (.inl (.inr ⟨i, .inl hi, rfl⟩))
        follower := fun i hi => h _ (.inl (.inr ⟨i, .inr hi, rfl⟩))
        block := fun b hb => h _ (.inr ⟨b, hb, rfl⟩) }

/-- A variable is well-formed if it meets its obligations. -/
theorem Variable.wellFormed_iff {index : Nat} {var : Variable} :
    var.WellFormed index a ↔ ∀ o ∈ var.obligations index, o.Holds a := by
  simp only [obligations, List.mem_cons, List.mem_append, List.mem_map, Option.mem_toList]
  constructor
  · rintro ⟨notOwnSibling, siblings, creator⟩
    rintro o (rfl | ⟨s, hs, rfl⟩ | ⟨i, hi, rfl⟩)
    · exact notOwnSibling
    · exact siblings s hs
    · exact creator i hi
  · intro h
    exact
      { notOwnSibling := h _ (.inl rfl)
        siblings := fun s hs => h _ (.inr (.inl ⟨s, hs, rfl⟩))
        creator := fun i hi => h _ (.inr (.inr ⟨i, hi, rfl⟩)) }

/-- A block is well-formed if it meets its obligations. -/
theorem Block.wellFormed_iff {block : Block} :
    block.WellFormed a ↔ ∀ o ∈ block.obligations, o.Holds a := by
  simp only [obligations, List.mem_cons, List.mem_append, List.mem_map, List.mem_flatMap]
  constructor
  · rintro ⟨edgesTyped, subRoutine, instructions, children, controls⟩
    rintro o (rfl | rfl | ⟨i, hi, rfl⟩ | ⟨b, hb | ⟨control, hcontrol, hb⟩, rfl⟩)
    · exact edgesTyped
    · exact subRoutine
    · exact instructions i hi
    · exact children b hb
    · exact controls control hcontrol b hb
  · intro h
    exact
      { edgesTyped := h _ (.inl rfl)
        subRoutine := h _ (.inr (.inl rfl))
        instructions := fun i hi => h _ (.inr (.inr (.inl ⟨i, hi, rfl⟩)))
        children := fun b hb => h _ (.inr (.inr (.inr ⟨b, .inl hb, rfl⟩)))
        controls := fun control hcontrol b hb =>
          h _ (.inr (.inr (.inr ⟨b, .inr ⟨control, hcontrol, hb⟩, rfl⟩))) }

/-- A subroutine is well-formed if it meets its obligations. -/
theorem SubRoutine.wellFormed_iff {sub : SubRoutine} :
    sub.WellFormed a ↔ ∀ o ∈ sub.obligations, o.Holds a := by
  simp only [obligations, List.mem_append, List.mem_map]
  constructor
  · rintro ⟨blocks, params, returns, returnSites⟩
    rintro o ((⟨b, hb, rfl⟩ | ⟨v, hv, rfl⟩) | ⟨i, hi, rfl⟩)
    · exact blocks b hb
    · exact hv.elim (params v) (returns v)
    · exact returnSites i hi
  · intro h
    exact
      { blocks := fun b hb => h _ (.inl (.inl ⟨b, hb, rfl⟩))
        params := fun v hv => h _ (.inl (.inr ⟨v, .inl hv, rfl⟩))
        returns := fun v hv => h _ (.inl (.inr ⟨v, .inr hv, rfl⟩))
        returnSites := fun i hi => h _ (.inr ⟨i, hi, rfl⟩) }

/-- An analysis is accepted exactly if it is well-formed. -/
theorem Analysis.check_eq_ok_iff_wellFormed : a.check = .ok () ↔ a.WellFormed := by
  rw [check_eq_ok_iff]
  simp only [obligations, List.mem_append, List.mem_flatMap, List.mem_map, Array.mem_toList_iff,
    Prod.exists, List.mem_zipIdx_iff_getElem?, Array.getElem?_toList]
  constructor
  · intro h
    exact
      { instructions := fun instr hinstr => Instruction.wellFormed_iff.mpr fun o ho =>
          h o (.inl (.inl (.inl (.inl ⟨instr, hinstr, ho⟩))))
        vars := fun index var hvar => Variable.wellFormed_iff.mpr fun o ho =>
          h o (.inl (.inl (.inl (.inr ⟨var, index, hvar, ho⟩))))
        blocks := fun block hblock => Block.wellFormed_iff.mpr fun o ho =>
          h o (.inl (.inl (.inr ⟨block, hblock, ho⟩)))
        subRoutines := fun sub hsub => SubRoutine.wellFormed_iff.mpr fun o ho =>
          h o (.inl (.inr ⟨sub, hsub, ho⟩))
        globals := fun v hv => h _ (.inr ⟨v, hv, rfl⟩) }
  · rintro ⟨instructions, vars, blocks, subRoutines, globals⟩
    rintro o ((((⟨instr, hinstr, ho⟩ | ⟨var, index, hvar, ho⟩) | ⟨block, hblock, ho⟩) |
      ⟨sub, hsub, ho⟩) | ⟨v, hv, rfl⟩)
    · exact Instruction.wellFormed_iff.mp (instructions instr hinstr) o ho
    · exact Variable.wellFormed_iff.mp (vars index var hvar) o ho
    · exact Block.wellFormed_iff.mp (blocks block hblock) o ho
    · exact SubRoutine.wellFormed_iff.mp (subRoutines sub hsub) o ho
    · exact globals v hv

end Obligations

section Sizes

variable {a b : Analysis}

/-- Where the arenas have the same sizes, the same references resolve. -/
theorem Reference.resolves_congr (h : a.arenaSize = b.arenaSize) {reference : Reference} :
    reference.Resolves a ↔ reference.Resolves b := by
  rw [Resolves, Resolves, h]

/-- The same obligations hold. -/
theorem Obligation.holds_congr (h : a.arenaSize = b.arenaSize) (o : Obligation) :
    o.Holds a ↔ o.Holds b := by
  cases o <;> simp only [Holds, h]

/-- An instruction stays well-formed where the arenas keep their sizes. -/
theorem Instruction.WellFormed.of_arenaSize_eq {instr : Instruction} (wf : instr.WellFormed a)
    (h : a.arenaSize = b.arenaSize) : instr.WellFormed b :=
  wellFormed_iff.mpr fun o ho => (Obligation.holds_congr h o).mp (wellFormed_iff.mp wf o ho)

/-- So does a variable. -/
theorem Variable.WellFormed.of_arenaSize_eq {index : Nat} {var : Variable}
    (wf : var.WellFormed index a) (h : a.arenaSize = b.arenaSize) : var.WellFormed index b :=
  wellFormed_iff.mpr fun o ho => (Obligation.holds_congr h o).mp (wellFormed_iff.mp wf o ho)

/-- So does a block. -/
theorem Block.WellFormed.of_arenaSize_eq {block : Block} (wf : block.WellFormed a)
    (h : a.arenaSize = b.arenaSize) : block.WellFormed b :=
  wellFormed_iff.mpr fun o ho => (Obligation.holds_congr h o).mp (wellFormed_iff.mp wf o ho)

/-- So does a subroutine. -/
theorem SubRoutine.WellFormed.of_arenaSize_eq {sub : SubRoutine} (wf : sub.WellFormed a)
    (h : a.arenaSize = b.arenaSize) : sub.WellFormed b :=
  wellFormed_iff.mpr fun o ho => (Obligation.holds_congr h o).mp (wellFormed_iff.mp wf o ho)

end Sizes

namespace Analysis

/-- A script whose entry tests a variable, goes back to itself if that is true,
and goes on to a return that names no block. -/
def unfinishedLoop : Analysis where
  instructions := #[
    { address := 13, opcode := .rsAdd, operandType := .int, operands := [⟨0⟩]
      follower := some ⟨1⟩, block := some ⟨0⟩ },
    { address := 15, opcode := .jz, operands := [⟨0⟩], stack := [⟨0⟩], branches := [⟨0⟩]
      follower := none, block := some ⟨0⟩ }]
  blocks := #[
    { address := 13, instructions := [⟨0⟩, ⟨1⟩], subRoutine := ⟨0⟩
      children := [⟨0⟩, ⟨1⟩], childTypes := [.conditionalTrue, .conditionalFalse]
      controls := [{ kind := .ifCond, ifTrue := some ⟨0⟩, ifNext := some ⟨1⟩ }] },
    { address := 21, instructions := [], subRoutine := ⟨0⟩, controls := [{ kind := .returns }] }]
  subRoutines := #[{ address := 13, blocks := [⟨0⟩, ⟨1⟩] }]
  vars := #[{ id := 1, type := .int, creator := some ⟨0⟩ }]
  hasStackAnalysis := true
  hasControlFlow := true

example : unfinishedLoop.check = .ok () := rfl

variable {a : Analysis}

/-- An index leads to an instruction of the script. -/
theorem mem_of_instructionAt {id : InstrId} {instr : Instruction}
    (h : a.instructionAt id = .ok instr) : instr ∈ a.instructions := by
  unfold instructionAt at h
  split at h
  · next found hfound =>
      cases h
      exact Array.mem_of_getElem? hfound
  · cases h

/-- An index leads to what stands at its place among the blocks. -/
theorem getElem?_of_blockAt {id : BlockId} {block : Block} (h : a.blockAt id = .ok block) :
    a.blocks[id.index.toNat]? = some block := by
  unfold blockAt at h
  split at h
  · next found hfound =>
      cases h
      exact hfound
  · cases h

/-- A reference to an instruction that resolves leads to a well-formed one. -/
theorem WellFormed.instructionAt (wf : a.WellFormed) {id : InstrId}
    (h : id.reference.Resolves a) :
    (a.instructionAt id).Yields (·.WellFormed a) := by
  have inside : id.index.toNat < a.instructions.size := h
  rw [Analysis.instructionAt, Array.getElem?_eq_getElem inside]
  exact wf.instructions _ (Array.getElem_mem inside)

/-- A reference to a block that resolves leads to a well-formed one. -/
theorem WellFormed.blockAt (wf : a.WellFormed) {id : BlockId} (h : id.reference.Resolves a) :
    (a.blockAt id).Yields (·.WellFormed a) := by
  have inside : id.index.toNat < a.blocks.size := h
  rw [Analysis.blockAt, Array.getElem?_eq_getElem inside]
  exact wf.blocks _ (Array.getElem_mem inside)

/-- A reference to a subroutine that resolves leads to a well-formed one. -/
theorem WellFormed.subRoutineAt (wf : a.WellFormed) {id : SubId}
    (h : id.reference.Resolves a) :
    (a.subRoutineAt id).Yields (·.WellFormed a) := by
  have inside : id.index.toNat < a.subRoutines.size := h
  rw [Analysis.subRoutineAt, Array.getElem?_eq_getElem inside]
  exact wf.subRoutines _ (Array.getElem_mem inside)

/-- A reference to a variable that resolves leads to a well-formed one. -/
theorem WellFormed.variableAt (wf : a.WellFormed) {id : VarId} (h : id.reference.Resolves a) :
    (a.variableAt id).Yields (·.WellFormed id.index.toNat a) := by
  have inside : id.index.toNat < a.vars.size := h
  have found : a.vars[id.index.toNat]? = some a.vars[id.index.toNat] :=
    Array.getElem?_eq_getElem inside
  rw [Analysis.variableAt, found]
  exact wf.vars _ _ found

end Analysis

end NwScript
