/-
# Blocks in slices

The instructions of a block are cut into slices, one for each of its nodes. The slices
are as many as tens have to be begun, none is longer than ten and, but for that of an
empty block, none is empty. How long they are says where the block is cut; counting in
steps of the first slice says the same, and put together the slices are the block.
-/

import Mathlib
import NwScript.Proofs.Flowchart.Statements

namespace NwScript

open Flowchart

namespace Flowchart

/-- There are as many nodes as tens have to be begun, and at least one. -/
theorem nodeCount_eq_ceil (instructions : Nat) :
    nodeCount instructions = max 1 ⌈(instructions / 10 : ℚ)⌉₊ := by
  have hceil : groupsOf nodeCapacity instructions = ⌈(instructions / 10 : ℚ)⌉₊ := by
    refine eq_of_forall_ge_iff fun groups => ?_
    rw [groupsOf_le_iff (by decide), Nat.ceil_le, div_le_iff₀ (by norm_num)]
    exact_mod_cast Iff.rfl
  rw [nodeCount, hceil]

/-- How a count of instructions is split into the sizes of nodes. -/
structure SplitEvenly (instructions : Nat) (sizes : List Nat) : Prop where
  count : sizes.length = max 1 ⌈(instructions / 10 : ℚ)⌉₊
  atMost : ∀ size ∈ sizes, size ≤ 10
  atLeast : 1 ≤ instructions → ∀ size ∈ sizes, 1 ≤ size
  total : sizes.sum = instructions

/-- Nodes hold some texts in their order, each node the next of them, and what a node
holds begins at so many times the size of the first. -/
structure HoldInOrder (texts : List String) (nodes : List Node) : Prop where
  sizes : (nodes.map fun node => node.lines.length) = evenSizes texts.length
  whole : nodes.flatMap Node.lines = texts
  counted : ∀ first, (evenSizes texts.length).head? = some first →
    ∀ i < texts.length, ∃ node, nodes[i / max 1 first]? = some node ∧
      node.lines[i % max 1 first]? = texts[i]?

/-- Instructions are split evenly. -/
theorem splitEvenly_evenSizes (instructions : Nat) :
    SplitEvenly instructions (evenSizes instructions) where
  count := by rw [length_evenSizes, nodeCount_eq_ceil]
  atMost := fun _ hsize => (bounds_of_mem_evenSizes hsize).1
  atLeast := fun hpos _ hsize => (bounds_of_mem_evenSizes hsize).2 hpos
  total := sum_evenSizes instructions

/-- Nodes with the pieces of a partition hold in order what was parted. -/
theorem holdInOrder_of_partition {texts : List String} {nodes : List Node}
    (h : nodes.map Node.lines = partition texts) : HoldInOrder texts nodes where
  sizes := by
    have hlengths : (nodes.map fun node => node.lines.length) =
        (partition texts).map List.length := by
      rw [← h, List.map_map]
      rfl
    rw [hlengths, partition, map_length_splitBySizes (sum_evenSizes _)]
  whole := by rw [List.flatMap, h, partition, flatten_splitBySizes (sum_evenSizes _)]
  counted := by
    intro first hfirst i hi
    obtain ⟨piece, hpiece, hline⟩ := exists_piece hfirst hi
    rw [← h, List.getElem?_map, Option.map_eq_some_iff] at hpiece
    obtain ⟨node, hnode, rfl⟩ := hpiece
    exact ⟨node, hnode, hline⟩

end Flowchart

namespace Analysis

/-- Nodes are named by a block and counted, and show the texts of its instructions in slices. -/
def Sliced (a : Analysis) (game : Game) (block : Block) (nodes : List Node) : Prop :=
  nodes.map Node.name =
      (List.range (nodeCount block.instructions.length)).map (NodeName.mk block.address) ∧
    ∃ texts, List.Forall₂ (fun id text => ∃ instr, a.instructionAt id = .ok instr ∧
        a.instructionText game instr = .ok text) block.instructions texts ∧
      HoldInOrder texts nodes

variable {a : Analysis} {game : Game} {withTags : Bool}

/-- The lines of a block are the texts of its instructions. -/
theorem texts_of_blockLines {block : Block} {texts : List String}
    (h : a.blockLines game block = .ok texts) :
    List.Forall₂ (fun id text => ∃ instr, a.instructionAt id = .ok instr ∧
      a.instructionText game instr = .ok text) block.instructions texts :=
  (forall₂_of_mapM_eq_ok h).imp fun _ _ htext => bind_eq_ok_iff.mp htext

/-- The nodes of a block show its instructions in slices. -/
theorem sliced_blockNodes {block : Block} {nodes : List Node}
    (h : a.blockNodes game withTags block = .ok nodes) : a.Sliced game block nodes := by
  obtain ⟨texts, htexts, hnodes⟩ := lines_blockNodes h
  exact ⟨names_blockNodes h, texts, texts_of_blockLines htexts, holdInOrder_of_partition hnodes⟩

/-- However many instructions can be counted, they are split evenly, and no place at
which a node begins is past what can be counted. Every block of an accepted script has
nodes that show its instructions in slices of these sizes. The nodes that are written are
those of the charted blocks, one block after the other. -/
theorem blocks_in_slices (a : Analysis) (game : Game) (withTags : Bool)
    (accepted : a.check = .ok ()) :
    (∀ count : UInt64, SplitEvenly count.toNat (evenSizes count.toNat) ∧
        ∀ i < (evenSizes count.toNat).length,
          i * groupsOf (nodeCount count.toNat) count.toNat < 2 ^ 64) ∧
      (∀ block ∈ a.blocks, ∃ nodes, a.blockNodes game withTags block = .ok nodes ∧
        a.Sliced game block nodes) ∧
      ∃ graph groups, a.flowchart game withTags = .ok graph ∧
        (a.printFlowchart game withTags).text = .ok (written graph.statements) ∧
        graph.statements.filterMap Statement.node? = groups.flatten ∧
        List.Forall₂ (fun index nodes => ∃ block, a.blocks[index]? = some block ∧
          a.Sliced game block nodes) a.charted groups := by
  have wf := check_eq_ok_iff_wellFormed.mp accepted
  refine ⟨?_, ?_, ?_⟩
  · intro count
    refine ⟨splitEvenly_evenSizes count.toNat, fun i hi => ?_⟩
    rw [length_evenSizes] at hi
    have hbegin := mul_groupsOf_le hi
    exact Nat.lt_of_le_of_lt hbegin count.toNat_lt
  · intro block hblock
    obtain ⟨nodes, hnodes, _⟩ :=
      (yields_blockNodes wf game withTags (wf.blocks block hblock)).exists_value
    exact ⟨nodes, hnodes, sliced_blockNodes hnodes⟩
  · obtain ⟨graph, hgraph, _⟩ := (yields_flowchart wf game withTags).exists_value
    refine ⟨graph, graph.clusters.flatMap Cluster.blocks, hgraph, text_printFlowchart wf hgraph,
      graph.filterMap_node?.trans graph.nodes_eq_flatten, ?_⟩
    refine (shown_of_flowchart wf hgraph).imp fun _ _ hshows => ?_
    obtain ⟨block, hblock, hnodes⟩ := hshows
    exact ⟨block, hblock, sliced_blockNodes hnodes⟩

/-- A subroutine of one block, which does nothing twenty-two times and returns. -/
def longBlock : Analysis where
  instructions := Array.ofFn fun i : Fin 23 => {
    address := 13 + 2 * UInt32.ofNat i
    opcode := if i = 22 then .retn else .nop
    follower := if i = 22 then none else some ⟨UInt64.ofNat (i + 1)⟩
    block := some ⟨0⟩ }
  blocks := #[{ address := 13, subRoutine := ⟨0⟩
                instructions := (List.range 23).map fun i => ⟨UInt64.ofNat i⟩ }]
  subRoutines := #[{ address := 13, blocks := [⟨0⟩] }]

/-- The block is cut into slices of eight, eight and seven instructions, and these are the
nodes that are written. -/
theorem blocks_in_slices_longBlock :
    longBlock.check = .ok () ∧ SplitEvenly 23 [8, 8, 7] ∧
      ∃ graph, longBlock.flowchart {} false = .ok graph ∧
        (longBlock.printFlowchart {} false).text = .ok (written graph.statements) ∧
        ((graph.statements.filterMap Statement.node?).map fun node =>
          (node.name.text, node.lines.length)) =
          [("b0000000D_0", 8), ("b0000000D_1", 8), ("b0000000D_2", 7)] ∧
        (graph.statements.filterMap Statement.node?).flatMap Node.lines =
          List.replicate 22 "NOP" ++ ["RETN"] := by
  have accepted : longBlock.check = .ok () := by decide
  obtain ⟨hsizes, _, graph, groups, hgraph, htext, hnodes, hgroups⟩ :=
    blocks_in_slices longBlock {} false accepted
  have hcharted : longBlock.charted = [0] := by decide
  rw [hcharted] at hgroups
  obtain ⟨nodes, _, ⟨block, hblock, hnames, texts, htexts, hold⟩, hnone, rfl⟩ :=
    List.forall₂_cons_left_iff.mp hgroups
  cases List.forall₂_nil_left_iff.mp hnone
  rw [List.flatten_cons, List.flatten_nil, List.append_nil] at hnodes
  obtain rfl : longBlock.blocks[0] = block := Option.some.inj hblock
  have hread : longBlock.blockLines {} longBlock.blocks[0] =
      .ok (List.replicate 22 "NOP" ++ ["RETN"]) := by
    decide
  have hwhole : texts = List.replicate 22 "NOP" ++ ["RETN"] := by
    refine List.right_unique_forall₂' ?_ htexts (texts_of_blockLines hread)
    rintro id text other ⟨instr, hinstr, htext⟩ ⟨instr', hinstr', hother⟩
    cases hinstr.symm.trans hinstr'
    exact Except.ok.inj (htext.symm.trans hother)
  have heven : evenSizes 23 = [8, 8, 7] := by decide
  have hlengths : (nodes.map fun node => node.lines.length) = [8, 8, 7] := by
    rw [hold.sizes, hwhole]
    exact heven
  refine ⟨accepted, heven ▸ (hsizes 23).1, graph, hgraph, htext, ?_, ?_⟩
  · have hpairs : (nodes.map fun node => (node.name.text, node.lines.length)) =
        ((nodes.map Node.name).map NodeName.text).zip
          (nodes.map fun node => node.lines.length) := by
      rw [List.map_map, List.zip_map']
      rfl
    rw [hnodes, hpairs, hnames, hlengths]
    decide
  · rw [hnodes, hold.whole, hwhole]

end Analysis

end NwScript
