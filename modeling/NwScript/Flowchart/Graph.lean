/-
# The flowchart of a script

Each block of a script becomes one node or a chain of several, clustered by the
subroutine that lists the block, and each child of a block becomes an edge. This
module says which clusters, nodes and edges there are and what they show; how
they are written is another matter.
-/

import NwScript.Flowchart.Partition
import NwScript.Instruction.Text
import NwScript.Naming.Signature

namespace NwScript

namespace Flowchart

/-- The name of a node: the address of its block and its place in the chain. -/
structure NodeName where
  address : UInt32
  index : Nat
  deriving DecidableEq

/-- One node: a piece of a block. Only the first piece has a title and tags. -/
structure Node where
  name : NodeName
  tags : List ControlType := []
  title : Option String := none
  /-- The instructions of the piece. -/
  lines : List String
  deriving DecidableEq

/-- The nodes of one subroutine, block by block. -/
structure Cluster where
  address : UInt32
  label : String
  blocks : List (List Node)
  deriving DecidableEq

/-- One edge, from the last node of a block to the first of its child. -/
structure Edge where
  source : NodeName
  target : NodeName
  type : EdgeType
  /-- Whether the edge leads to a lower address. -/
  backward : Bool
  /-- Whether the edge leads out of its subroutine. -/
  crossing : Bool
  deriving DecidableEq

/-- A flowchart. -/
structure Graph where
  clusters : List Cluster
  edges : List Edge
  deriving DecidableEq

end Flowchart

namespace Analysis

open Flowchart

/-- The title of a block: its label, or its address if it has none. -/
def blockTitle (a : Analysis) (block : Block) : Resolved String := do
  return (← a.blockLabel? block).getD (jumpTargetName block.address)

/-- The texts of the instructions of a block. -/
def blockLines (a : Analysis) (game : Game) (block : Block) : Resolved (List String) :=
  block.instructions.mapM fun id => do a.instructionText game (← a.instructionAt id)

/-- The nodes of a block, with tags for its control structures or without. -/
def blockNodes (a : Analysis) (game : Game) (withTags : Bool) (block : Block) :
    Resolved (List Node) := do
  let title ← a.blockTitle block
  let lines ← a.blockLines game block
  return (partition lines).zipIdx.map fun (piece, index) => {
    name := ⟨block.address, index⟩
    tags := if withTags && index == 0 then block.controls.map (·.kind) else []
    title := if index = 0 then some title else none
    lines := piece }

/-- What is written above a cluster: the signature of the subroutine if it is
known, else its label, else its address. -/
def clusterLabel (a : Analysis) (game : Game) (sub : SubRoutine) : Resolved String := do
  match ← a.knownSignature? game sub with
  | some signature => return signature
  | none => return (← a.subRoutineLabel? sub).getD (jumpTargetName sub.address)

/-- The cluster of a subroutine. A subroutine that does not begin with an
instruction has none. -/
def cluster? (a : Analysis) (game : Game) (withTags : Bool) (sub : SubRoutine) :
    Resolved (Option Cluster) := do
  match sub.blocks with
  | [] => return none
  | first :: _ =>
      if (← a.blockAt first).instructions.isEmpty then return none
      let label ← a.clusterLabel game sub
      let blocks ← sub.blocks.mapM fun id => do a.blockNodes game withTags (← a.blockAt id)
      return some ⟨sub.address, label, blocks⟩

/-- The edge from a block to one of its children. -/
def edge (a : Analysis) (block : Block) (child : BlockId) (type : EdgeType) :
    Resolved Edge := do
  let target ← a.blockAt child
  return {
    source := ⟨block.address, nodeCount block.instructions.length - 1⟩
    target := ⟨target.address, 0⟩
    type := type
    backward := target.address < block.address
    crossing := block.subRoutine ≠ target.subRoutine }

/-- The edges of a block, one for each child. -/
def blockEdges (a : Analysis) (block : Block) : Resolved (List Edge) :=
  (block.children.zip block.childTypes).mapM fun (child, type) => a.edge block child type

/-- The flowchart of a script. -/
def flowchart (a : Analysis) (game : Game) (withTags : Bool) : Resolved Graph := do
  let clusters ← a.subRoutines.toList.mapM (a.cluster? game withTags)
  let edges ← a.blocks.toList.mapM a.blockEdges
  return ⟨clusters.filterMap id, edges.flatten⟩

end Analysis

end NwScript
