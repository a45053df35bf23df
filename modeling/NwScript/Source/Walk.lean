/-
# Walking the structure of a subroutine

A block can name other blocks as its branches and continuations, and these name
further ones. What is still to be written is kept on a stack of `Step`s, so that
deep nesting costs no native stack. A block stays open until everything below it
is written; where it comes up again in the meantime it is skipped, which breaks
cycles in the annotations but still writes a block that two paths share once for
each of them.

The walk ends for every analysis, whether it was checked or not: along a path a
block can be opened only once, so each step lowers the `weight` of what is left.
-/

import NwScript.Source.Visit

namespace NwScript

/-- A thing still to be done. -/
inductive Step
  | pending (pending : Pending)
  /-- Everything below the block has been written. -/
  | close (id : BlockId)
  deriving DecidableEq

/-- The state of a walk. -/
structure Walk where
  work : List Step
  /-- The blocks whose output is still open. -/
  opened : List BlockId := []
  /-- What has been done, the latest first. -/
  done : List (Action Piece) := []

/-- Where one step leads. -/
inductive Walk.Progress
  | running (walk : Walk)
  | ended (result : Outcome Unit) (done : List (Action Piece))

namespace Walk

variable (a : Analysis) (game : Game)

/-- Do the first thing that is left. -/
def step (walk : Walk) : Progress :=
  match walk.work with
  | [] => .ended (.ok ()) walk.done
  | .pending (.text content) :: rest =>
      .running { walk with work := rest, done := .write (.text content) :: walk.done }
  | .close id :: rest =>
      .running { walk with work := rest, opened := walk.opened.erase id }
  | .pending (.block id indent) :: rest =>
      match a.blockAt id with
      | .error reference => .ended (.error (.unresolved reference)) walk.done
      | .ok block =>
          if id ∈ walk.opened then
            .running
              { walk with work := rest, done := .log (.alreadyOpen block.address) :: walk.done }
          else
            let visited := a.visit game id indent block
            let done := visited.actions.reverse ++ walk.done
            match visited.result with
            | .error failure => .ended (.error failure) done
            | .ok parts =>
                .running
                  { work := parts.map .pending ++ .close id :: rest
                    opened := id :: walk.opened
                    done := done }

/-- What a block goes on with, if it can be written. -/
def successors : Pending → List Pending
  | .text _ => []
  | .block id indent =>
      match a.blockAt id with
      | .error _ => []
      | .ok block =>
          match (a.visit game id indent block).result with
          | .error _ => []
          | .ok parts => parts

/-- How many blocks of the analysis are not open. -/
def closedBlocks (opened : List BlockId) : Nat :=
  (List.range a.blocks.size).countP fun i => !opened.any fun id => id.index.toNat == i

/-- The sum of all numbers of a list. -/
def total : List Nat → Nat
  | [] => 0
  | n :: rest => n + total rest

/-- How many steps a thing can cause when paths below it open so many blocks. -/
def cost : (depth : Nat) → Pending → Nat
  | 0, _ => 1
  | depth + 1, pending => 2 + total ((successors a game pending).map (cost depth))

/-- How many steps can be left. -/
def weightOf : List Step → List BlockId → Nat
  | [], _ => 0
  | .close id :: rest, opened => 1 + weightOf rest (opened.erase id)
  | .pending pending :: rest, opened =>
      cost a game (closedBlocks a opened) pending + weightOf rest opened

/-- How many steps of a walk can be left. -/
def weight (walk : Walk) : Nat := weightOf a game walk.work walk.opened

variable {a game}

theorem cost_pos (depth : Nat) (pending : Pending) : 0 < cost a game depth pending := by
  cases depth <;> simp only [cost] <;> omega

/-- One element less passes a test that excludes it. -/
theorem countP_exclude {l : List Nat} {p : Nat → Bool} {x : Nat}
    (nodup : l.Nodup) (mem : x ∈ l) (holds : p x = true) :
    l.countP p = l.countP (fun i => p i && !(x == i)) + 1 := by
  induction l with
  | nil => simp at mem
  | cons y rest ih =>
      rw [List.nodup_cons] at nodup
      rw [List.countP_cons, List.countP_cons]
      rcases List.mem_cons.mp mem with rfl | mem
      · have same : rest.countP p = rest.countP (fun i => p i && !(x == i)) :=
          List.countP_congr fun i hi => by
            have : x ≠ i := fun h => nodup.1 (h ▸ hi)
            simp [this]
        simp [holds, same]
      · have : x ≠ y := fun h => nodup.1 (h ▸ mem)
        simp [ih nodup.2 mem, this]
        omega

/-- Opening a block leaves one block less to open. -/
theorem closedBlocks_open {id : BlockId} {opened : List BlockId}
    (inside : id.index.toNat < a.blocks.size) (fresh : id ∉ opened) :
    closedBlocks a opened = closedBlocks a (id :: opened) + 1 := by
  unfold closedBlocks
  rw [countP_exclude List.nodup_range (List.mem_range.mpr inside)]
  · congr 2
    funext i
    simp [Bool.and_comm]
  · simp only [Bool.not_eq_true', List.any_eq_false, beq_iff_eq]
    intro other mem same
    have : other = id := by
      cases other; cases id
      exact congrArg BlockId.mk (UInt64.toNat_inj.mp same)
    exact fresh (this ▸ mem)

/-- Things that open and close nothing themselves weigh what they cost. -/
theorem weightOf_append (parts : List Pending) (rest : List Step) (opened : List BlockId) :
    weightOf a game (parts.map .pending ++ rest) opened =
      total (parts.map (cost a game (closedBlocks a opened))) + weightOf a game rest opened := by
  induction parts with
  | nil => simp [total]
  | cons part parts ih => simp [weightOf, total, ih, Nat.add_assoc]

/-- An index that leads to a block lies inside the arena. -/
theorem inside_of_blockAt {id : BlockId} {block : Block} (h : a.blockAt id = .ok block) :
    id.index.toNat < a.blocks.size := by
  unfold Analysis.blockAt at h
  split at h
  · next found => exact (Array.getElem?_eq_some_iff.mp found).1
  · cases h

/-- Each step leaves less to do. -/
theorem weight_step {walk later : Walk} (h : walk.step a game = .running later) :
    later.weight a game < walk.weight a game := by
  unfold step at h
  split at h
  · cases h
  · next content rest hwork =>
      cases h
      have := @cost_pos a game (closedBlocks a walk.opened) (.text content)
      simp only [weight, hwork, weightOf]
      omega
  · next id rest hwork =>
      cases h
      simp only [weight, hwork, weightOf]
      omega
  · next id indent rest hwork =>
      split at h
      · cases h
      · next block hblock =>
          split at h
          · cases h
            have := @cost_pos a game (closedBlocks a walk.opened) (.block id indent)
            simp only [weight, hwork, weightOf]
            omega
          · next fresh =>
              dsimp only at h
              split at h
              · cases h
              · next parts hparts =>
                  cases h
                  have hsucc : successors a game (.block id indent) = parts := by
                    simp [successors, hblock, hparts]
                  simp only [weight, hwork, weightOf, weightOf_append, List.erase_cons_head,
                    closedBlocks_open (inside_of_blockAt hblock) fresh, cost, hsucc]
                  omega

variable (a game)

/-- Do everything that is left, and tell what was done. -/
def run (walk : Walk) : Transcript Piece Unit :=
  match _h : walk.step a game with
  | .ended result done => ⟨done.reverse, result⟩
  | .running later => later.run
termination_by walk.weight a game
decreasing_by exact weight_step _h

end Walk

/-- Write a block and everything below it. -/
def Analysis.printFrom (a : Analysis) (game : Game) (entry : BlockId) (indent : Nat) :
    Transcript Piece Unit :=
  Walk.run a game { work := [.pending (.block entry indent)] }

end NwScript
