/-
# Checking an analysis

Whoever writes a script follows references from instructions to blocks, from
blocks to subroutines, and so on. `Analysis.check` checks them all beforehand.
It is the first failure in a list of `Obligation`s that says, in one place, what
a well-formed analysis owes: each reference lies in its arena, each child has an
edge type, and no variable is its own sibling.
-/

import NwScript.Error
import NwScript.Graph.Basic

namespace NwScript

/-- One condition that a well-formed analysis meets. -/
inductive Obligation
  /-- The index lies in its arena. -/
  | resolves (reference : Reference)
  /-- The block has as many edge types as children. -/
  | edgesTyped (block : Block)
  /-- The variable at this index is not among its own siblings. -/
  | notOwnSibling (index : Nat) (var : Variable)
  deriving DecidableEq

namespace Obligation

/-- When the condition is met. -/
def Holds (a : Analysis) : Obligation → Prop
  | resolves reference => reference.index.toNat < a.arenaSize reference.arena
  | edgesTyped block => block.children.length = block.childTypes.length
  | notOwnSibling index var => ∀ s ∈ var.siblings.toList, s.index.toNat ≠ index

instance (a : Analysis) (o : Obligation) : Decidable (o.Holds a) := by
  cases o <;> unfold Holds <;> infer_instance

/-- How a condition that is not met is reported. -/
def violation : Obligation → Error
  | resolves reference => .dangling reference
  | edgesTyped block =>
      .edgeTypesDiffer block.address block.children.length block.childTypes.length
  | notOwnSibling _ var => .ownSibling var.id

end Obligation

/-- What an instruction owes: its variables and stack, its jump targets and
follower, and its block. -/
def Instruction.obligations (instr : Instruction) : List Obligation :=
  (instr.operands ++ instr.stack).map (fun v => .resolves v.reference) ++
    (instr.branches ++ instr.follower.toList).map (fun i => .resolves i.reference) ++
    instr.block.toList.map (fun b => .resolves b.reference)

/-- What the variable at an index owes: that it is not its own sibling, its
siblings and its creator. -/
def Variable.obligations (index : Nat) (var : Variable) : List Obligation :=
  .notOwnSibling index var ::
    (var.siblings.toList.map (fun s => .resolves s.reference) ++
      var.creator.toList.map (fun i => .resolves i.reference))

/-- What a block owes: typed edges, its subroutine, its instructions, its
children and the blocks of its control structures. -/
def Block.obligations (block : Block) : List Obligation :=
  .edgesTyped block :: .resolves block.subRoutine.reference ::
    (block.instructions.map (fun i => .resolves i.reference) ++
      (block.children ++ block.controls.flatMap ControlStructure.blocks).map
        (fun b => .resolves b.reference))

/-- What a subroutine owes: its blocks, its parameters and results, and its
return sites. -/
def SubRoutine.obligations (sub : SubRoutine) : List Obligation :=
  sub.blocks.map (fun b => .resolves b.reference) ++
    (sub.params ++ sub.returns).map (fun v => .resolves v.reference) ++
    sub.returnSites.map (fun i => .resolves i.reference)

namespace Analysis

/-- Everything an analysis owes, in the order in which it is checked. -/
def obligations (a : Analysis) : List Obligation :=
  a.instructions.toList.flatMap Instruction.obligations ++
    (a.vars.toList.zipIdx.flatMap fun (var, index) => var.obligations index) ++
    a.blocks.toList.flatMap Block.obligations ++
    a.subRoutines.toList.flatMap SubRoutine.obligations ++
    a.globals.map (fun v => .resolves v.reference)

/-- The first condition that is not met, as an error. -/
def check (a : Analysis) : Except Error Unit :=
  match a.obligations.find? (fun o => ¬ o.Holds a) with
  | none => .ok ()
  | some broken => .error broken.violation

/-- An analysis is accepted exactly if it owes nothing. -/
theorem check_eq_ok_iff {a : Analysis} :
    a.check = .ok () ↔ ∀ o ∈ a.obligations, o.Holds a := by
  unfold check
  split
  · next h => simpa using h
  · next broken h =>
      have hbroken := List.find?_some h
      simp only [decide_eq_true_eq] at hbroken
      simp only [reduceCtorEq, false_iff]
      exact fun hall => hbroken (hall broken (List.mem_of_find?_eq_some h))

end Analysis

end NwScript
