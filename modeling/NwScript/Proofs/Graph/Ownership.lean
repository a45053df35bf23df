/-
# Blocks and the subroutines that list them

Whose block it is is said twice: a block names a subroutine, and a subroutine
lists blocks. The check of a script sees to it that both lead somewhere, but does
not compare them: in an accepted script the blocks can be handed out to the
subroutines in any other way, and it is accepted still. So that every block is
listed once, by the subroutine that it names, is a property of its own. It can be
told by counting: a list without repetitions that is as long as there are blocks
leaves none of them out.
-/

import Mathlib.Algebra.BigOperators.Fin
import Mathlib.Data.List.Perm.Subperm
import NwScript.Proofs.Graph.WellFormed

namespace NwScript

/-- The blocks that a subroutine lists, by their places among the blocks. -/
def SubRoutine.listed (sub : SubRoutine) : List Nat := sub.blocks.map (·.index.toNat)

namespace Analysis

/-- The blocks that the subroutines list, one subroutine after the other. -/
def listed (a : Analysis) : List Nat := a.subRoutines.toList.flatMap SubRoutine.listed

/-- Every block is listed once by the subroutine that it names, and by no other. -/
def Owned (a : Analysis) : Prop :=
  ∀ (index : Nat) (block : Block), a.blocks[index]? = some block →
    ∀ (place : Nat) (sub : SubRoutine), a.subRoutines[place]? = some sub →
      sub.listed.count index = if place = block.subRoutine.index.toNat then 1 else 0

/-- Every block that a subroutine lists names that subroutine. -/
def ListsOwn (a : Analysis) : Prop :=
  ∀ (place : Nat) (sub : SubRoutine), a.subRoutines[place]? = some sub →
    ∀ index ∈ sub.listed, ∀ block, a.blocks[index]? = some block →
      block.subRoutine.index.toNat = place

/-- The same script with its blocks handed out anew: each block names the subroutine
that is given for it, and each subroutine lists the blocks that are. -/
def handOut (a : Analysis) (owner : Nat → SubId) (lists : Nat → List BlockId) : Analysis where
  size := a.size
  instructions := a.instructions
  blocks := a.blocks.mapIdx fun index block => { block with subRoutine := owner index }
  subRoutines := a.subRoutines.mapIdx fun place sub => { sub with blocks := lists place }
  vars := a.vars
  globals := a.globals
  hasStackAnalysis := a.hasStackAnalysis
  hasControlFlow := a.hasControlFlow

section Counting

variable {a : Analysis}

/-- A block that only one subroutine lists is listed as often as it does that. -/
theorem count_listed {index owner : Nat} {sub : SubRoutine}
    (howner : a.subRoutines[owner]? = some sub)
    (hothers : ∀ (place : Nat) (other : SubRoutine), a.subRoutines[place]? = some other →
      place ≠ owner → other.listed.count index = 0) :
    a.listed.count index = sub.listed.count index := by
  rw [← Array.getElem?_toList, List.getElem?_eq_some_iff] at howner
  obtain ⟨inside, rfl⟩ := howner
  rw [listed, List.count_flatMap, ← Fin.sum_univ_fun_getElem,
    Finset.sum_eq_single (⟨owner, inside⟩ : Fin a.subRoutines.toList.length)]
  · rfl
  · intro place _ hplace
    apply hothers place
    · rw [← Array.getElem?_toList]
      exact List.getElem?_eq_getElem place.isLt
    · exact fun heq => hplace (Fin.ext heq)
  · exact fun hmem => absurd (Finset.mem_univ _) hmem

/-- Where subroutines list their own blocks only, the one that a block names lists it
as often as all together. -/
theorem ListsOwn.count_eq (hown : a.ListsOwn) {index : Nat} {block : Block}
    (hblock : a.blocks[index]? = some block) {place : Nat} {sub : SubRoutine}
    (hsub : a.subRoutines[place]? = some sub) :
    sub.listed.count index =
      if place = block.subRoutine.index.toNat then a.listed.count index else 0 := by
  have hothers {place : Nat} {other : SubRoutine} (hother : a.subRoutines[place]? = some other)
      (hplace : place ≠ block.subRoutine.index.toNat) : other.listed.count index = 0 := by
    rw [List.count_eq_zero]
    intro hmem
    exact hplace (hown place other hother index hmem block hblock).symm
  split
  · next hplace =>
      subst hplace
      exact (count_listed hsub fun _ _ => hothers).symm
  · next hplace => exact hothers hsub hplace

variable (wf : a.WellFormed)

include wf

/-- What subroutines list are blocks. -/
theorem lt_size_of_mem_listed {index : Nat} (h : index ∈ a.listed) : index < a.blocks.size := by
  obtain ⟨sub, hsub, hindex⟩ := List.mem_flatMap.mp h
  obtain ⟨id, hid, rfl⟩ := List.mem_map.mp hindex
  exact (wf.subRoutines sub (Array.mem_toList_iff.mp hsub)).blocks id hid

/-- A block names a subroutine. -/
theorem exists_named {index : Nat} {block : Block} (h : a.blocks[index]? = some block) :
    ∃ sub, a.subRoutines[block.subRoutine.index.toNat]? = some sub := by
  have hresolves := (wf.blocks block (Array.mem_of_getElem? h)).subRoutine
  exact ⟨_, Array.getElem?_eq_getElem hresolves⟩

/-- Every block is owned exactly if subroutines list their own blocks only, none of
them twice, and as many as there are. -/
theorem owned_iff :
    a.Owned ↔ a.ListsOwn ∧ a.listed.Nodup ∧ a.listed.length = a.blocks.size := by
  have hrange : a.listed ⊆ List.range a.blocks.size := fun index h =>
    List.mem_range.mpr (lt_size_of_mem_listed wf h)
  constructor
  · intro howned
    have hown : a.ListsOwn := by
      intro place sub hsub index hindex block hblock
      have hcount := howned index block hblock place sub hsub
      have hpos := List.count_pos_iff.mpr hindex
      by_contra hne
      rw [if_neg fun h => hne h.symm] at hcount
      omega
    -- What is listed are all places of blocks, since each of them counts once.
    have hperm : a.listed.Perm (List.range a.blocks.size) := by
      rw [List.perm_iff_count]
      intro index
      rw [List.count_range]
      split
      · next hindex =>
          have hblock := Array.getElem?_eq_getElem hindex
          obtain ⟨sub, hsub⟩ := exists_named wf hblock
          have hcount := howned index _ hblock _ sub hsub
          rw [hown.count_eq hblock hsub, if_pos rfl, if_pos rfl] at hcount
          exact hcount
      · next hindex =>
          exact List.count_eq_zero.mpr fun hmem => hindex (lt_size_of_mem_listed wf hmem)
    exact ⟨hown, hperm.nodup_iff.mpr List.nodup_range, by rw [hperm.length_eq, List.length_range]⟩
  · rintro ⟨hown, hnodup, hlength⟩ index block hblock place sub hsub
    -- Without repetitions, as many places as there are blocks are all of them.
    have hperm : a.listed.Perm (List.range a.blocks.size) := by
      apply (hnodup.subperm hrange).perm_of_length_le
      rw [List.length_range, hlength]
    have hindex : index < a.blocks.size := (Array.getElem?_eq_some_iff.mp hblock).1
    rw [hown.count_eq hblock hsub, hperm.count_eq, List.count_range, if_pos hindex]

end Counting

section HandingOut

variable {a : Analysis}

variable (owner : Nat → SubId) (lists : Nat → List BlockId)

/-- Handing out blocks adds none and takes none away. -/
theorem arenaSize_handOut : (a.handOut owner lists).arenaSize = a.arenaSize := by
  funext arena
  cases arena <;> simp [arenaSize, handOut]

/-- A block of the script that is handed out anew is one of the old blocks with the
subroutine given for it. -/
theorem mem_blocks_handOut {block : Block} :
    block ∈ (a.handOut owner lists).blocks ↔
      ∃ (index : Nat) (old : Block), a.blocks[index]? = some old ∧
        block = { old with subRoutine := owner index } := by
  rw [Array.mem_iff_getElem?]
  simp only [handOut, Array.getElem?_mapIdx, Option.map_eq_some_iff, @eq_comm _ block]

/-- A subroutine of the script is one of the old ones with the list given for it. -/
theorem mem_subRoutines_handOut {sub : SubRoutine} :
    sub ∈ (a.handOut owner lists).subRoutines ↔
      ∃ (place : Nat) (old : SubRoutine), a.subRoutines[place]? = some old ∧
        sub = { old with blocks := lists place } := by
  rw [Array.mem_iff_getElem?]
  simp only [handOut, Array.getElem?_mapIdx, Option.map_eq_some_iff, @eq_comm _ sub]

/-- A well-formed script with its blocks handed out anew is well-formed exactly if it
has the subroutines and the blocks that are given. -/
theorem WellFormed.handOut_iff (wf : a.WellFormed) :
    (a.handOut owner lists).WellFormed ↔
      (∀ index < a.blocks.size, (owner index).reference.Resolves a) ∧
        ∀ place < a.subRoutines.size, ∀ id ∈ lists place, id.reference.Resolves a := by
  have hsizes := a.arenaSize_handOut owner lists
  have hresolves (reference : Reference) :
      reference.Resolves (a.handOut owner lists) ↔ reference.Resolves a :=
    Reference.resolves_congr hsizes
  constructor
  · intro wf'
    constructor
    · intro index hindex
      have hblock := (mem_blocks_handOut owner lists).mpr
        ⟨index, _, Array.getElem?_eq_getElem hindex, rfl⟩
      exact (hresolves _).mp (wf'.blocks _ hblock).subRoutine
    · intro place hplace id hid
      have hsub := (mem_subRoutines_handOut owner lists).mpr
        ⟨place, _, Array.getElem?_eq_getElem hplace, rfl⟩
      exact (hresolves _).mp ((wf'.subRoutines _ hsub).blocks id hid)
  · rintro ⟨howners, hlists⟩
    refine ⟨?instructions, ?vars, ?blocks, ?subRoutines, ?globals⟩
    case instructions =>
      intro instr hinstr
      exact (wf.instructions instr hinstr).of_arenaSize_eq hsizes.symm
    case vars =>
      intro index var hvar
      exact (wf.vars index var hvar).of_arenaSize_eq hsizes.symm
    case blocks =>
      intro block hblock
      obtain ⟨index, old, hold, rfl⟩ := (mem_blocks_handOut owner lists).mp hblock
      have hwf := (wf.blocks old (Array.mem_of_getElem? hold)).of_arenaSize_eq hsizes.symm
      have hindex : index < a.blocks.size := (Array.getElem?_eq_some_iff.mp hold).1
      exact
        { edgesTyped := hwf.edgesTyped
          subRoutine := (hresolves _).mpr (howners index hindex)
          instructions := hwf.instructions
          children := hwf.children
          controls := hwf.controls }
    case subRoutines =>
      intro sub hsub
      obtain ⟨place, old, hold, rfl⟩ := (mem_subRoutines_handOut owner lists).mp hsub
      have hwf := (wf.subRoutines old (Array.mem_of_getElem? hold)).of_arenaSize_eq hsizes.symm
      have hplace : place < a.subRoutines.size := (Array.getElem?_eq_some_iff.mp hold).1
      exact
        { blocks := fun b hb => (hresolves _).mpr (hlists place hplace b hb)
          params := hwf.params
          returns := hwf.returns
          returnSites := hwf.returnSites }
    case globals =>
      intro v hv
      exact (hresolves _).mpr (wf.globals v hv)

end HandingOut

/-- A script that is accepted need not have its blocks owned. They are exactly if each
subroutine lists its own blocks only, none of them twice, and as many are listed as
there are; but the check looks at nothing of that: if the blocks are handed out anew,
the script is accepted whenever the blocks and the subroutines exist. -/
theorem ownership_of_accepted (a : Analysis) (accepted : a.check = .ok ()) :
    (a.Owned ↔ a.ListsOwn ∧ a.listed.Nodup ∧ a.listed.length = a.blocks.size) ∧
      ∀ (owner : Nat → SubId) (lists : Nat → List BlockId),
        (a.handOut owner lists).check = .ok () ↔
          (∀ index < a.blocks.size, (owner index).reference.Resolves a) ∧
            ∀ place < a.subRoutines.size, ∀ id ∈ lists place, id.reference.Resolves a := by
  have wf := check_eq_ok_iff_wellFormed.mp accepted
  refine ⟨owned_iff wf, ?_⟩
  intro owner lists
  rw [check_eq_ok_iff_wellFormed]
  exact wf.handOut_iff owner lists

/-- The loop is one such script. -/
theorem ownership_unfinishedLoop :
    unfinishedLoop.check = .ok () ∧
      (unfinishedLoop.Owned ↔ unfinishedLoop.ListsOwn ∧ unfinishedLoop.listed.Nodup ∧
        unfinishedLoop.listed.length = unfinishedLoop.blocks.size) ∧
      ∀ (owner : Nat → SubId) (lists : Nat → List BlockId),
        (unfinishedLoop.handOut owner lists).check = .ok () ↔
          (∀ index < unfinishedLoop.blocks.size,
            (owner index).reference.Resolves unfinishedLoop) ∧
          ∀ place < unfinishedLoop.subRoutines.size, ∀ id ∈ lists place,
            id.reference.Resolves unfinishedLoop :=
  ⟨rfl, ownership_of_accepted unfinishedLoop rfl⟩

/-- Two blocks of one subroutine, which lists the first of them. -/
def unlistedBlock : Analysis where
  instructions := #[
    { address := 13, opcode := .jmp, branches := [⟨1⟩], block := some ⟨0⟩ },
    { address := 19, opcode := .retn, block := some ⟨1⟩, addressType := .jumpLabel }]
  blocks := #[
    { address := 13, instructions := [⟨0⟩], subRoutine := ⟨0⟩
      children := [⟨1⟩], childTypes := [.unconditional] },
    { address := 19, instructions := [⟨1⟩], subRoutine := ⟨0⟩ }]
  subRoutines := #[{ address := 13, blocks := [⟨0⟩] }]

/-- The second block names its subroutine, is accepted, and stands in no list. -/
theorem unlistedBlock_not_owned :
    unlistedBlock.check = .ok () ∧ ¬ unlistedBlock.Owned := by
  refine ⟨rfl, fun howned => ?_⟩
  have hcount := howned 1 _ rfl 0 _ rfl
  revert hcount
  decide

end Analysis

end NwScript
