/-
# What the check of an analysis reports

The check goes through a list of obligations and stops at the first that is not
met. Here the list is compared with what an analysis holds, field by field: the
references that are checked are exactly those that some field makes, each block
is asked for the types of its edges, and each variable for itself among its
siblings. So nothing is accepted that has a violation somewhere, nothing is
refused without one, and the report of a refusal describes one that is there.
-/

import NwScript.Proofs.Graph.WellFormed

namespace NwScript

/-- A field of an instruction makes the reference. -/
inductive Instruction.Refers (instr : Instruction) : Reference → Prop
  | operand {v : VarId} (h : v ∈ instr.operands) : Refers instr v.reference
  | stack {v : VarId} (h : v ∈ instr.stack) : Refers instr v.reference
  | branch {i : InstrId} (h : i ∈ instr.branches) : Refers instr i.reference
  | follower {i : InstrId} (h : instr.follower = some i) : Refers instr i.reference
  | block {b : BlockId} (h : instr.block = some b) : Refers instr b.reference

/-- A field of a variable makes the reference. -/
inductive Variable.Refers (var : Variable) : Reference → Prop
  | sibling {v : VarId} (h : v ∈ var.siblings.toList) : Refers var v.reference
  | creator {i : InstrId} (h : var.creator = some i) : Refers var i.reference

/-- A field of a control structure names the block. -/
inductive ControlStructure.Names (control : ControlStructure) : BlockId → Prop
  | ifCond {b : BlockId} (h : control.ifCond = some b) : Names control b
  | ifTrue {b : BlockId} (h : control.ifTrue = some b) : Names control b
  | ifElse {b : BlockId} (h : control.ifElse = some b) : Names control b
  | ifNext {b : BlockId} (h : control.ifNext = some b) : Names control b
  | loopHead {b : BlockId} (h : control.loopHead = some b) : Names control b
  | loopTail {b : BlockId} (h : control.loopTail = some b) : Names control b
  | loopNext {b : BlockId} (h : control.loopNext = some b) : Names control b
  | loopBreak {b : BlockId} (h : control.loopBreak = some b) : Names control b
  | loopContinue {b : BlockId} (h : control.loopContinue = some b) : Names control b
  | returnBlock {b : BlockId} (h : control.returnBlock = some b) : Names control b

/-- A field of a block, or of one of its control structures, makes the reference. -/
inductive Block.Refers (block : Block) : Reference → Prop
  | subRoutine : Refers block block.subRoutine.reference
  | instruction {i : InstrId} (h : i ∈ block.instructions) : Refers block i.reference
  | child {b : BlockId} (h : b ∈ block.children) : Refers block b.reference
  | control {control : ControlStructure} {b : BlockId} (h : control ∈ block.controls)
      (names : control.Names b) : Refers block b.reference

/-- A field of a subroutine makes the reference. -/
inductive SubRoutine.Refers (sub : SubRoutine) : Reference → Prop
  | block {b : BlockId} (h : b ∈ sub.blocks) : Refers sub b.reference
  | param {v : VarId} (h : v ∈ sub.params) : Refers sub v.reference
  | result {v : VarId} (h : v ∈ sub.returns) : Refers sub v.reference
  | returnSite {i : InstrId} (h : i ∈ sub.returnSites) : Refers sub i.reference

/-- Some part of an analysis makes the reference. -/
inductive Analysis.Refers (a : Analysis) : Reference → Prop
  | instruction {instr : Instruction} {reference : Reference} (h : instr ∈ a.instructions)
      (refers : instr.Refers reference) : Refers a reference
  | var {var : Variable} {reference : Reference} (h : var ∈ a.vars)
      (refers : var.Refers reference) : Refers a reference
  | block {block : Block} {reference : Reference} (h : block ∈ a.blocks)
      (refers : block.Refers reference) : Refers a reference
  | subRoutine {sub : SubRoutine} {reference : Reference} (h : sub ∈ a.subRoutines)
      (refers : sub.Refers reference) : Refers a reference
  | global {v : VarId} (h : v ∈ a.globals) : Refers a v.reference

section Obligations

variable {o : Obligation}

/-- An instruction owes that its references resolve, and nothing else. -/
theorem Instruction.mem_obligations_iff {instr : Instruction} :
    o ∈ instr.obligations ↔ ∃ reference, instr.Refers reference ∧ o = .resolves reference := by
  simp only [obligations, List.mem_append, List.mem_map, Option.mem_toList]
  constructor
  · rintro ((⟨v, hv | hv, rfl⟩ | ⟨i, hi | hi, rfl⟩) | ⟨b, hb, rfl⟩)
    · exact ⟨_, .operand hv, rfl⟩
    · exact ⟨_, .stack hv, rfl⟩
    · exact ⟨_, .branch hi, rfl⟩
    · exact ⟨_, .follower hi, rfl⟩
    · exact ⟨_, .block hb, rfl⟩
  · rintro ⟨reference, refers, rfl⟩
    cases refers with
    | @operand v h => exact .inl (.inl ⟨v, .inl h, rfl⟩)
    | @stack v h => exact .inl (.inl ⟨v, .inr h, rfl⟩)
    | @branch i h => exact .inl (.inr ⟨i, .inl h, rfl⟩)
    | @follower i h => exact .inl (.inr ⟨i, .inr h, rfl⟩)
    | @block b h => exact .inr ⟨b, h, rfl⟩

/-- A variable owes that it is not its own sibling and that its references resolve. -/
theorem Variable.mem_obligations_iff {index : Nat} {var : Variable} :
    o ∈ var.obligations index ↔
      o = .notOwnSibling index var ∨
        ∃ reference, var.Refers reference ∧ o = .resolves reference := by
  simp only [obligations, List.mem_cons, List.mem_append, List.mem_map, Option.mem_toList]
  apply or_congr_right
  constructor
  · rintro (⟨v, hv, rfl⟩ | ⟨i, hi, rfl⟩)
    · exact ⟨_, .sibling hv, rfl⟩
    · exact ⟨_, .creator hi, rfl⟩
  · rintro ⟨reference, refers, rfl⟩
    cases refers with
    | @sibling v h => exact .inl ⟨v, h, rfl⟩
    | @creator i h => exact .inr ⟨i, h, rfl⟩

/-- The blocks of a control structure are those that its ten fields name. -/
theorem ControlStructure.mem_blocks_iff {control : ControlStructure} {b : BlockId} :
    b ∈ control.blocks ↔ control.Names b := by
  simp only [blocks, List.mem_append, Option.mem_toList]
  constructor
  · rintro (((((((((h | h) | h) | h) | h) | h) | h) | h) | h) | h)
    · exact .ifCond h
    · exact .ifTrue h
    · exact .ifElse h
    · exact .ifNext h
    · exact .loopHead h
    · exact .loopTail h
    · exact .loopNext h
    · exact .loopBreak h
    · exact .loopContinue h
    · exact .returnBlock h
  · rintro (h | h | h | h | h | h | h | h | h | h) <;> simp [h]

/-- A block owes that its edges are typed and that its references resolve. -/
theorem Block.mem_obligations_iff {block : Block} :
    o ∈ block.obligations ↔
      o = .edgesTyped block ∨
        ∃ reference, block.Refers reference ∧ o = .resolves reference := by
  simp only [obligations, List.mem_cons, List.mem_append, List.mem_map, List.mem_flatMap,
    ControlStructure.mem_blocks_iff]
  apply or_congr_right
  constructor
  · rintro (rfl | ⟨i, hi, rfl⟩ | ⟨b, hb | ⟨control, hcontrol, names⟩, rfl⟩)
    · exact ⟨_, .subRoutine, rfl⟩
    · exact ⟨_, .instruction hi, rfl⟩
    · exact ⟨_, .child hb, rfl⟩
    · exact ⟨_, .control hcontrol names, rfl⟩
  · rintro ⟨reference, refers, rfl⟩
    cases refers with
    | subRoutine => exact .inl rfl
    | @instruction i h => exact .inr (.inl ⟨i, h, rfl⟩)
    | @child b h => exact .inr (.inr ⟨b, .inl h, rfl⟩)
    | @control control b h names => exact .inr (.inr ⟨b, .inr ⟨control, h, names⟩, rfl⟩)

/-- A subroutine owes that its references resolve, and nothing else. -/
theorem SubRoutine.mem_obligations_iff {sub : SubRoutine} :
    o ∈ sub.obligations ↔ ∃ reference, sub.Refers reference ∧ o = .resolves reference := by
  simp only [obligations, List.mem_append, List.mem_map]
  constructor
  · rintro ((⟨b, hb, rfl⟩ | ⟨v, hv | hv, rfl⟩) | ⟨i, hi, rfl⟩)
    · exact ⟨_, .block hb, rfl⟩
    · exact ⟨_, .param hv, rfl⟩
    · exact ⟨_, .result hv, rfl⟩
    · exact ⟨_, .returnSite hi, rfl⟩
  · rintro ⟨reference, refers, rfl⟩
    cases refers with
    | @block b h => exact .inl (.inl ⟨b, h, rfl⟩)
    | @param v h => exact .inl (.inr ⟨v, .inl h, rfl⟩)
    | @result v h => exact .inl (.inr ⟨v, .inr h, rfl⟩)
    | @returnSite i h => exact .inr ⟨i, h, rfl⟩

end Obligations

namespace Analysis

variable {a : Analysis}

/-- An analysis owes that all its references resolve, that the edges of each block
are typed, and that no variable is its own sibling. -/
theorem mem_obligations_iff {o : Obligation} :
    o ∈ a.obligations ↔
      (∃ reference, a.Refers reference ∧ o = .resolves reference) ∨
      (∃ block ∈ a.blocks, o = .edgesTyped block) ∨
      ∃ index var, a.vars[index]? = some var ∧ o = .notOwnSibling index var := by
  simp only [obligations, List.mem_append, List.mem_flatMap, List.mem_map, Array.mem_toList_iff,
    Prod.exists, List.mem_zipIdx_iff_getElem?, Array.getElem?_toList,
    Instruction.mem_obligations_iff, Variable.mem_obligations_iff, Block.mem_obligations_iff,
    SubRoutine.mem_obligations_iff]
  constructor
  · rintro ((((⟨instr, hinstr, reference, refers, rfl⟩ | ⟨var, index, hvar, rfl | refers⟩) |
      ⟨block, hblock, rfl | refers⟩) | ⟨sub, hsub, reference, refers, rfl⟩) | ⟨v, hv, rfl⟩)
    · exact .inl ⟨reference, .instruction hinstr refers, rfl⟩
    · exact .inr (.inr ⟨index, var, hvar, rfl⟩)
    · obtain ⟨reference, refers, rfl⟩ := refers
      exact .inl ⟨reference, .var (Array.mem_of_getElem? hvar) refers, rfl⟩
    · exact .inr (.inl ⟨block, hblock, rfl⟩)
    · obtain ⟨reference, refers, rfl⟩ := refers
      exact .inl ⟨reference, .block hblock refers, rfl⟩
    · exact .inl ⟨reference, .subRoutine hsub refers, rfl⟩
    · exact .inl ⟨_, .global hv, rfl⟩
  · rintro (⟨reference, refers, rfl⟩ | ⟨block, hblock, rfl⟩ | ⟨index, var, hvar, rfl⟩)
    · cases refers with
      | instruction h refers => exact .inl (.inl (.inl (.inl ⟨_, h, reference, refers, rfl⟩)))
      | var h refers =>
          obtain ⟨index, hindex⟩ := Array.getElem?_of_mem h
          exact .inl (.inl (.inl (.inr ⟨_, index, hindex, .inr ⟨reference, refers, rfl⟩⟩)))
      | block h refers => exact .inl (.inl (.inr ⟨_, h, .inr ⟨reference, refers, rfl⟩⟩))
      | subRoutine h refers => exact .inl (.inr ⟨_, h, reference, refers, rfl⟩)
      | @global v h => exact .inr ⟨v, h, rfl⟩
    · exact .inl (.inl (.inr ⟨block, hblock, .inl rfl⟩))
    · exact .inl (.inl (.inl (.inr ⟨var, index, hvar, .inl rfl⟩)))

example : ({ vars := #[{ id := 4, type := .int, siblings := .ofList [⟨0⟩] }] } : Analysis).check =
    .error (.ownSibling 4) := rfl

/-- An error of the check is the report of an obligation that is not met. -/
theorem exists_violation_of_check_eq_error {error : Error} (h : a.check = .error error) :
    ∃ o ∈ a.obligations, ¬ o.Holds a ∧ error = o.violation := by
  unfold check at h
  split at h
  · cases h
  · next broken hbroken =>
      cases h
      refine ⟨broken, List.mem_of_find?_eq_some hbroken, ?_, rfl⟩
      simpa using List.find?_some hbroken

/-- An analysis is accepted exactly if every reference in it leads into its arena,
every child of a block has an edge type, and no variable is its own sibling. A
refusal names a reference that is made and leads nowhere, a block whose counts
differ, or a variable that is its own sibling. -/
theorem check_accepts_or_reports (a : Analysis) :
    (a.check = .ok () ↔
      (∀ reference, a.Refers reference →
        reference.index.toNat < a.arenaSize reference.arena) ∧
      (∀ block ∈ a.blocks, block.children.length = block.childTypes.length) ∧
      ∀ (index : Nat) (var : Variable), a.vars[index]? = some var →
        ∀ s ∈ var.siblings.toList, s.index.toNat ≠ index) ∧
    ∀ error, a.check = .error error →
      (∃ reference, error = .dangling reference ∧ a.Refers reference ∧
        ¬ reference.index.toNat < a.arenaSize reference.arena) ∨
      (∃ block ∈ a.blocks, block.children.length ≠ block.childTypes.length ∧
        error = .edgeTypesDiffer block.address block.children.length block.childTypes.length) ∨
      ∃ (index : Nat) (var : Variable), a.vars[index]? = some var ∧ error = .ownSibling var.id ∧
        ∃ s ∈ var.siblings.toList, s.index.toNat = index := by
  constructor
  · rw [check_eq_ok_iff]
    simp only [mem_obligations_iff]
    constructor
    · intro h
      exact ⟨fun reference refers => h _ (.inl ⟨reference, refers, rfl⟩),
        fun block hblock => h _ (.inr (.inl ⟨block, hblock, rfl⟩)),
        fun index var hvar => h _ (.inr (.inr ⟨index, var, hvar, rfl⟩))⟩
    · rintro ⟨resolves, edgesTyped, notOwnSibling⟩ o
        (⟨reference, refers, rfl⟩ | ⟨block, hblock, rfl⟩ | ⟨index, var, hvar, rfl⟩)
      · exact resolves reference refers
      · exact edgesTyped block hblock
      · exact notOwnSibling index var hvar
  · intro error h
    obtain ⟨o, hmem, broken, rfl⟩ := exists_violation_of_check_eq_error h
    rcases mem_obligations_iff.mp hmem with
      ⟨reference, refers, rfl⟩ | ⟨block, hblock, rfl⟩ | ⟨index, var, hvar, rfl⟩
    · exact .inl ⟨reference, rfl, refers, broken⟩
    · exact .inr (.inl ⟨block, hblock, broken, rfl⟩)
    · refine .inr (.inr ⟨index, var, hvar, rfl, ?_⟩)
      simpa [Obligation.Holds] using broken

end Analysis

end NwScript
