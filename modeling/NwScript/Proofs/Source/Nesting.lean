/-
# The nesting of a walk

A block is open while a marker that will close it waits on the stack of the walk.
At every state that a walk comes through, the markers on the stack stand for the
open blocks, one for each, the innermost first. So no more blocks are open than
there are, and none once the stack is empty. Every walk comes to a state where it
ends, and what it has done there is its transcript.
-/

import Mathlib.Data.List.Nodup
import Mathlib.Data.List.Perm.Subperm
import Mathlib.Data.List.Range
import Mathlib.Logic.Relation
import NwScript.Proofs.Source.Moves

namespace NwScript.Walk

variable (a : Analysis) (game : Game)

/-- One step leads from a state of a walk to another. -/
def GoesOn (walk later : Walk) : Prop := walk.step a game = .running later

/-- A walk comes through a state. -/
abbrev Reaches (walk later : Walk) : Prop := Relation.ReflTransGen (GoesOn a game) walk later

/-- The blocks that the markers on a stack will close, in the order in which they
will be. -/
def closers (work : List Step) : List BlockId :=
  work.filterMap fun
    | .close id => some id
    | .pending _ => none

/-- The blocks that are open at a state of a walk are those that the stack will
close. -/
structure Nests (walk : Walk) : Prop where
  closers_eq : closers walk.work = walk.opened
  nodup : walk.opened.Nodup
  inside : ∀ id ∈ walk.opened, id.index.toNat < a.blocks.size

variable {a game}

section Markers

@[simp]
theorem closers_close (id : BlockId) (rest : List Step) :
    closers (.close id :: rest) = id :: closers rest := rfl

@[simp]
theorem closers_pending (pending : Pending) (rest : List Step) :
    closers (.pending pending :: rest) = closers rest := rfl

/-- What a block leaves to be written holds no marker. -/
@[simp]
theorem closers_parts (parts : List Pending) (rest : List Step) :
    closers (parts.map .pending ++ rest) = closers rest := by
  induction parts with
  | nil => rfl
  | cons part parts ih => simpa using ih

/-- A block is closed as often as there are markers for it. -/
theorem count_closers (id : BlockId) (work : List Step) :
    (closers work).count id = work.count (.close id) := by
  induction work with
  | nil => rfl
  | cons step rest ih =>
      cases step with
      | close other => simp [List.count_cons, ih]
      | pending pending => simp [ih]

end Markers

section Places

/-- Different blocks stand at different places, so there are no more of them than
places. -/
theorem length_le_of_nodup {ids : List BlockId} (nodup : ids.Nodup)
    (inside : ∀ id ∈ ids, id.index.toNat < a.blocks.size) : ids.length ≤ a.blocks.size := by
  have injective : Function.Injective fun id : BlockId => id.index.toNat := by
    intro ⟨first⟩ ⟨second⟩ same
    exact congrArg BlockId.mk (UInt64.toNat_inj.mp same)
  have places : (ids.map fun id => id.index.toNat).Subperm (List.range a.blocks.size) := by
    refine (List.Nodup.map injective nodup).subperm fun place hplace => ?_
    obtain ⟨id, hid, rfl⟩ := List.mem_map.mp hplace
    exact List.mem_range.mpr (inside id hid)
  simpa using places.length_le

end Places

section Invariant

/-- A move opens a block together with its marker and closes it with the same. -/
theorem nests_of_moves {walk later : Walk} (h : walk.Nests a) (move : Moves a game walk later) :
    later.Nests a := by
  cases move with
  | text content rest opened done =>
      exact ⟨h.closers_eq, h.nodup, h.inside⟩
  | close id rest opened done =>
      -- The marker in front is that of the innermost open block.
      obtain rfl : id :: closers rest = opened := h.closers_eq
      have hrest : (id :: closers rest).erase id = closers rest := List.erase_cons_head ..
      have hnodup : (id :: closers rest).Nodup := h.nodup
      refine ⟨hrest.symm, ?_, ?_⟩
      · rw [hrest]
        exact (List.nodup_cons.mp hnodup).2
      · intro other hother
        rw [hrest] at hother
        exact h.inside other (List.mem_cons_of_mem id hother)
  | skip rest done found mem =>
      exact ⟨h.closers_eq, h.nodup, h.inside⟩
  | @enter id indent block parts rest opened done found fresh visited =>
      have hrest : closers rest = opened := h.closers_eq
      refine ⟨by simp [hrest], List.nodup_cons.mpr ⟨fresh, h.nodup⟩, ?_⟩
      intro other hother
      rcases List.mem_cons.mp hother with rfl | hother
      · exact inside_of_blockAt found
      · exact h.inside other hother

/-- A walk that begins with a block nests wherever it comes. -/
theorem nests_of_reaches {entry : BlockId} {indent : Nat} {walk : Walk}
    (h : Reaches a game { work := [.pending (.block entry indent)] } walk) : walk.Nests a := by
  induction h with
  | refl => exact ⟨rfl, .nil, nofun⟩
  | tail _ hstep ih => exact nests_of_moves ih (moves_of_running hstep)

end Invariant

namespace Nests

variable {walk : Walk} (h : walk.Nests a)

include h

/-- The stack holds one marker for each open block and none for another. -/
theorem count_close (id : BlockId) :
    walk.work.count (.close id) = if id ∈ walk.opened then 1 else 0 := by
  rw [← count_closers, h.closers_eq]
  split
  · next mem => exact List.count_eq_one_of_mem h.nodup mem
  · next fresh => exact List.count_eq_zero_of_not_mem fresh

/-- No more blocks are open than there are. -/
theorem length_opened_le : walk.opened.length ≤ a.blocks.size :=
  length_le_of_nodup h.nodup h.inside

/-- Nothing is open once nothing is left to be done. -/
theorem opened_eq_nil (finished : walk.work = []) : walk.opened = [] := by
  rw [← h.closers_eq, finished]
  rfl

end Nests

/-- Every walk comes to a state where it ends, and its transcript tells what has been
done there. -/
theorem exists_end (a : Analysis) (game : Game) (walk : Walk) :
    ∃ last result done, Reaches a game walk last ∧ last.step a game = .ended result done ∧
      walk.run a game = ⟨done.reverse, result⟩ := by
  induction walk using Walk.run.induct a game with
  | case1 walk result done hstep =>
      exact ⟨walk, result, done, .refl, hstep, run_of_ended hstep⟩
  | case2 walk later hstep ih =>
      obtain ⟨last, result, done, hreaches, hend, hrun⟩ := ih
      exact ⟨last, result, done, .head hstep hreaches, hend, (run_of_running hstep).trans hrun⟩

end NwScript.Walk
