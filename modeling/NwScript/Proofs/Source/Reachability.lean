/-
# Blocks that a source text comes to

A block goes on with the block after its call and with the blocks that its
conditionals name. The recursion follows these but never enters a block within
itself, so it comes to a block only along a path on which none is repeated.
Nothing is missed by that: what can be reached at all can be reached along such
a path, since a path can begin anew at the last place where it meets its start.
So a source text can be written exactly if every block that can be reached from
an entry is complete.
-/

import Mathlib.Logic.Relation
import NwScript.Proofs.Delivery
import NwScript.Proofs.Source.Completeness
import NwScript.Proofs.Source.Outline

namespace NwScript

namespace Analysis

variable (a : Analysis)

/-- A block goes on with another one. -/
def Continues (source target : BlockId) : Prop :=
  ∃ block, a.blockAt source = .ok block ∧ target ∈ block.successors

/-- One block leads to another without entering an open block, where each block
on the way is open for those that come after it. -/
inductive LeadsTo : List BlockId → BlockId → BlockId → Prop
  | here {opened : List BlockId} {id : BlockId} (fresh : id ∉ opened) : LeadsTo opened id id
  | onward {opened : List BlockId} {id next target : BlockId} (fresh : id ∉ opened)
      (continues : a.Continues id next) (rest : LeadsTo (id :: opened) next target) :
      LeadsTo opened id target

/-- A block can be found and is complete. -/
def CompleteAt (id : BlockId) : Prop := ∃ block, a.blockAt id = .ok block ∧ block.Complete a

variable {a}

/-- A way can be extended by any block that is not open before it: if the block
is on the way already, the way to it is a part. -/
theorem LeadsTo.extend {opened : List BlockId} {source middle target : BlockId}
    (h : a.LeadsTo opened source middle) (continues : a.Continues middle target)
    (fresh : target ∉ opened) : a.LeadsTo opened source target := by
  induction h with
  | @here opened id hid =>
      by_cases htarget : target = id
      · rw [htarget]
        exact .here hid
      · apply LeadsTo.onward hid continues
        apply LeadsTo.here
        simp [htarget, fresh]
  | @onward opened id next middle hid hnext rest ih =>
      by_cases htarget : target = id
      · -- The way comes back to its start: what lies between is left out.
        rw [htarget]
        exact .here hid
      · apply LeadsTo.onward hid hnext
        apply ih continues
        simp [htarget, fresh]

/-- Whatever is open, a block leads only to blocks that can be reached. -/
theorem LeadsTo.reaches {opened : List BlockId} {source target : BlockId}
    (h : a.LeadsTo opened source target) : Relation.ReflTransGen a.Continues source target := by
  induction h with
  | here fresh => exact .refl
  | onward fresh continues rest ih => exact .head continues ih

/-- Where nothing is open, it leads to all of them. -/
theorem leadsTo_nil_iff {source target : BlockId} :
    a.LeadsTo [] source target ↔ Relation.ReflTransGen a.Continues source target := by
  constructor
  · exact LeadsTo.reaches
  · intro h
    induction h with
    | refl => exact .here List.not_mem_nil
    | tail _ continues ih => exact ih.extend continues List.not_mem_nil

end Analysis

section Writing

variable {below : Below}

/-- Parts are written if the blocks among them are. -/
theorem Below.succeeds_writeAll {parts : List Pending} :
    Succeeds (below.writeAll parts) ↔
      ∀ id indent, Pending.block id indent ∈ parts → Succeeds (below indent id) := by
  induction parts with
  | nil => simp [Below.writeAll]
  | cons part rest ih =>
      cases part with
      | text content =>
          rw [Below.writeAll, succeeds_bind_of_forall fun pieces => succeeds_pure _, ih]
          simp
      | block id indent =>
          rw [Below.writeAll, succeeds_bind_iff fun pieces =>
            succeeds_bind_of_forall fun others => succeeds_pure _, ih]
          constructor
          · rintro ⟨hfirst, hrest⟩ other k hmem
            rcases List.mem_cons.mp hmem with heq | hmem
            · cases heq
              exact hfirst
            · exact hrest other k hmem
          · intro h
            exact ⟨h id indent List.mem_cons_self,
              fun other k hmem => h other k (List.mem_cons_of_mem _ hmem)⟩

/-- A block that was read is written if the blocks that it goes on with are,
whatever their indents. -/
theorem Reading.succeeds_write {reading : Reading} {indent : Nat} {id : BlockId}
    {holds : BlockId → Prop} (hbelow : ∀ child ∈ reading.targets, ∀ k,
      Succeeds (below k child) ↔ holds child) :
    Succeeds (reading.write below indent id) ↔ ∀ child ∈ reading.targets, holds child := by
  rw [Reading.write_eq, succeeds_map, Below.succeeds_writeAll]
  constructor
  · intro h child hchild
    obtain ⟨k, hk⟩ := Reading.mem_targets_iff.mp hchild
    exact (hbelow child hchild k).mp (h child k hk)
  · intro h child k hk
    have hchild := Reading.mem_targets_iff.mpr ⟨k, hk⟩
    exact (hbelow child hchild k).mpr (h child hchild)

end Writing

namespace Analysis

section Functions

variable {a : Analysis} (wf : a.WellFormed) (game : Game)

include wf

/-- A block that is not open is written if it is complete, and so is every block
that it leads to. -/
theorem succeeds_outline (opened : List BlockId) (indent : Nat) (id : BlockId)
    (hid : id.reference.Resolves a) :
    Succeeds (a.outline game opened indent id) ↔
      ∀ target, a.LeadsTo opened id target → a.CompleteAt target := by
  -- Along a path the number of open blocks grows, so the recursion of the outline
  -- is the one to follow; indents play no part in it.
  induction opened, indent, id using outline.induct a with
  | case1 opened indent id reference found =>
      exact False.elim ((wf.blockAt hid).of_error found)
  | case2 opened indent id block found mem =>
      rw [outline_of_mem found mem]
      apply iff_of_true (succeeds_ok [])
      intro target h
      cases h with
      | here fresh => exact absurd mem fresh
      | onward fresh => exact absurd mem fresh
  | case3 opened indent id block found fresh ih =>
      have hblock : block.WellFormed a := (wf.blockAt hid).of_ok found
      have hbelow {reading : Reading} (hreading : a.readBlock game block = .ok reading) :
          ∀ child ∈ reading.targets, ∀ k, Succeeds (a.outline game (id :: opened) k child) ↔
            ∀ target, a.LeadsTo (id :: opened) child target → a.CompleteAt target := by
        intro child hchild k
        apply ih k child
        apply hblock.successors
        rw [← targets_readBlock hreading]
        exact hchild
      rw [outline_of_not_mem found fresh, succeeds_bind]
      constructor
      · rintro ⟨reading, hreading, hwrite⟩ target h
        have hchildren := (Reading.succeeds_write (hbelow hreading)).mp hwrite
        cases h with
        | here => exact ⟨block, found, (succeeds_readBlock wf game hblock).mp ⟨reading, hreading⟩⟩
        | @onward _ _ next _ _ continues rest =>
            obtain ⟨same, hsame, hnext⟩ := continues
            rw [found] at hsame
            cases hsame
            rw [← targets_readBlock hreading] at hnext
            exact hchildren next hnext target rest
      · intro h
        obtain ⟨same, hsame, hcomplete⟩ := h id (.here fresh)
        rw [found] at hsame
        cases hsame
        obtain ⟨reading, hreading⟩ := (succeeds_readBlock wf game hblock).mpr hcomplete
        refine ⟨reading, hreading, (Reading.succeeds_write (hbelow hreading)).mpr ?_⟩
        intro child hchild target rest
        rw [targets_readBlock hreading] at hchild
        exact h target (.onward fresh ⟨block, found, hchild⟩ rest)

/-- A walk from a block comes to its end if every block that can be reached is
complete. -/
theorem succeeds_printFrom {entry : BlockId} (hentry : entry.reference.Resolves a)
    (indent : Nat) :
    Succeeds (a.printFrom game entry indent).result ↔
      ∀ id, Relation.ReflTransGen a.Continues entry id → a.CompleteAt id := by
  rw [← Transcript.succeeds_pieces, pieces_printFrom,
    succeeds_outline wf game [] indent entry hentry]
  simp only [leadsTo_nil_iff]

/-- A function is written if it returns at most one value and every block that
can be reached from its entry is complete. -/
theorem succeeds_printFunction {sub : SubRoutine} (hsub : sub.WellFormed a) :
    Succeeds (a.printFunction game sub).result ↔ sub.returns.length ≤ 1 ∧
      ∀ entry, sub.blocks.head? = some entry →
        ∀ id, Relation.ReflTransGen a.Continues entry id → a.CompleteAt id := by
  have hbody : Succeeds (a.functionBody game sub).result ↔
      ∀ entry, sub.blocks.head? = some entry →
        ∀ id, Relation.ReflTransGen a.Continues entry id → a.CompleteAt id := by
    rw [functionBody]
    cases hblocks : sub.blocks with
    | nil => simp
    | cons entry rest =>
        simp only [List.head?_cons, Option.some.injEq, forall_eq']
        exact succeeds_printFrom wf game (hsub.blocks entry (hblocks ▸ List.mem_cons_self)) 1
  rw [result_printFunction]
  by_cases hseveral : 1 < sub.returns.length
  · rw [if_pos hseveral]
    exact iff_of_false (not_succeeds_error _) fun h => Nat.not_le_of_lt hseveral h.1
  · obtain ⟨signature, hsignature, _⟩ := (yields_signature wf game true hsub).exists_value
    rw [if_neg hseveral, hsignature, Outcome.ofResolved_ok, ok_bind, hbody,
      and_iff_right (Nat.le_of_not_lt hseveral)]

/-- A program is written if all its functions are. -/
theorem succeeds_printProgram :
    Succeeds (a.printProgram game).result ↔
      ∀ sub ∈ a.subRoutines, Succeeds (a.printFunction game sub).result := by
  have hglobals : Succeeds (a.globals.forM fun id => do
      let _ ← Outcome.ofResolved (a.globalText game id)) := by
    rw [succeeds_forM]
    intro v hv
    obtain ⟨var, hvar, _⟩ := (wf.variableAt (wf.globals v hv)).exists_value
    rw [globalText, hvar]
    exact succeeds_ok ()
  rw [result_printProgram, succeeds_bind_iff fun _ => succeeds_forM,
    and_iff_right hglobals]
  simp only [Array.mem_toList_iff]

end Functions

/-- The source text of a script that is accepted comes to its end exactly if both
analyses have been made, no subroutine returns several values, and every block
that can be reached from an entry is complete. No incomplete block escapes by
being open wherever it comes up, and no other block stands in the way. -/
theorem printSource_succeeds_iff (a : Analysis) (game : Game) (accepted : a.check = .ok ()) :
    ((a.printSource game).deliver none).result = .ok () ↔
      a.hasStackAnalysis = true ∧ a.hasControlFlow = true ∧
      (∀ sub ∈ a.subRoutines, sub.returns.length ≤ 1) ∧
      ∀ sub ∈ a.subRoutines, ∀ entry, sub.blocks.head? = some entry →
        ∀ id, Relation.ReflTransGen a.Continues entry id →
          ∃ block, a.blockAt id = .ok block ∧ block.Complete a := by
  have wf := check_eq_ok_iff_wellFormed.mp accepted
  have hprogram : (a.printProgram game).result = .ok () ↔
      (∀ sub ∈ a.subRoutines, sub.returns.length ≤ 1) ∧
      ∀ sub ∈ a.subRoutines, ∀ entry, sub.blocks.head? = some entry →
        ∀ id, Relation.ReflTransGen a.Continues entry id → a.CompleteAt id := by
    have hfunction := fun sub hsub =>
      succeeds_printFunction wf game (wf.subRoutines sub hsub)
    rw [← succeeds_unit_iff, succeeds_printProgram wf game]
    constructor
    · intro h
      exact ⟨fun sub hsub => ((hfunction sub hsub).mp (h sub hsub)).1,
        fun sub hsub => ((hfunction sub hsub).mp (h sub hsub)).2⟩
    · rintro ⟨hreturns, hcomplete⟩ sub hsub
      exact (hfunction sub hsub).mpr ⟨hreturns sub hsub, hcomplete sub hsub⟩
  rw [Transcript.result_deliver, result_printSource]
  show (if a.hasStackAnalysis = false then _ else if a.hasControlFlow = false then _ else
    (a.printProgram game).result) = .ok () ↔ _
  cases a.hasStackAnalysis with
  | false => simp
  | true =>
      cases a.hasControlFlow with
      | false => simp
      | true =>
          simp only [true_and]
          exact hprogram

/-- The loop cannot be written: its entry leads on to a return without a block. -/
theorem printSource_unfinishedLoop :
    unfinishedLoop.check = .ok () ∧
      ((unfinishedLoop.printSource {}).deliver none).result ≠ .ok () := by
  have accepted : unfinishedLoop.check = .ok () := rfl
  refine ⟨accepted, fun h => ?_⟩
  obtain ⟨_, _, _, hcomplete⟩ := (printSource_succeeds_iff unfinishedLoop {} accepted).mp h
  have hstep : unfinishedLoop.Continues ⟨0⟩ ⟨1⟩ := ⟨_, rfl, by decide⟩
  obtain ⟨block, hblock, complete⟩ :=
    hcomplete unfinishedLoop.subRoutines[0] (Array.getElem_mem _) ⟨0⟩ rfl ⟨1⟩ (.single hstep)
  cases hblock
  obtain ⟨id, hid, _⟩ := complete.returns { kind := .returns } List.mem_cons_self rfl
  cases hid

end Analysis

end NwScript
