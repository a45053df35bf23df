/-
# Edges and the nodes that they join

A flowchart has one edge for every way out of a block, in the order in which the
script has them, and no other. The edge leaves the last node of the block and enters
the first node of the child, and names both by address and place. Names are read off
without ambiguity, since the digits of an address are always as many; so where no two
blocks share an address and none is listed twice, a name is that of one node, and the
two names of an edge tell which way out it is.
-/

import Mathlib
import NwScript.Proofs.Flowchart.Statements
import NwScript.Proofs.Text.Digits

namespace NwScript

open Flowchart

namespace Flowchart

/-- Nodes that are written alike have the same address and the same place. -/
theorem NodeName.text_injective : Function.Injective NodeName.text := by
  intro first second h
  have hchars := congrArg String.toList h
  simp only [NodeName.text, String.toList_append, List.append_assoc] at hchars
  have hlength (address : UInt32) : (Text.hex32 address).toList.length = 8 := by
    rw [Text.hex32, String.toList_ofList, Text.length_fixedDigits]
  obtain ⟨_, hnamed⟩ := List.append_inj hchars rfl
  obtain ⟨haddress, hcounted⟩ := List.append_inj hnamed (by rw [hlength, hlength])
  obtain ⟨_, hindex⟩ := List.append_inj hcounted rfl
  have haddresses := Text.hex32_inj (String.toList_inj.mp haddress)
  have hindices := Nat.repr_inj.mp (String.toList_inj.mp hindex)
  exact congrArg₂ NodeName.mk haddresses hindices

/-- A flowchart declares a name if one of its statements is a node with this name. -/
def Graph.Declares (graph : Graph) (name : NodeName) : Prop :=
  ∃ node, Statement.node node ∈ graph.statements ∧ node.name = name

/-- What is declared are the names of the nodes. -/
theorem Graph.declares_iff {graph : Graph} {name : NodeName} :
    graph.Declares name ↔ name ∈ graph.nodes.map Node.name := by
  simp only [Graph.Declares, List.mem_map, Graph.node_mem_statements]

/-- A way out of a block: the block with its place in the script, and a child of it with
its place among the children. -/
structure Exit where
  index : Nat
  block : Block
  place : Nat
  child : BlockId

end Flowchart

namespace Analysis

/-- The ways out of the block at a place. -/
def exitsOf (index : Nat) (block : Block) : List Exit :=
  block.children.zipIdx.map fun (child, place) => ⟨index, block, place, child⟩

/-- The ways out of all blocks, block by block and child by child. -/
def exits (a : Analysis) : List Exit :=
  a.blocks.toList.zipIdx.flatMap fun (block, index) => exitsOf index block

/-- An edge draws a way out of a block. -/
structure Draws (a : Analysis) (exit : Exit) (edge : Edge) : Prop where
  source : edge.source = ⟨exit.block.address, nodeCount exit.block.instructions.length - 1⟩
  target : ∃ child, a.blockAt exit.child = .ok child ∧ edge.target = ⟨child.address, 0⟩ ∧
    (Statement.edge edge).text = "  b" ++ Text.hex32 exit.block.address ++ "_" ++
      toString (nodeCount exit.block.instructions.length - 1) ++
      " -> b" ++ Text.hex32 child.address ++ "_0 [ " ++ edge.attributes ++ " ]\n"
  type : exit.block.childTypes[exit.place]? = some edge.type

/-- The block at a place is listed by a subroutine that has a cluster. -/
def Drawn (a : Analysis) (game : Game) (withTags : Bool) (index : Nat) : Prop :=
  ∃ sub ∈ a.subRoutines, (∃ cluster, a.cluster? game withTags sub = .ok (some cluster)) ∧
    index ∈ sub.listed

variable {a : Analysis} {game : Game} {withTags : Bool}

section Exits

/-- A way out belongs to the block that has it. -/
theorem block_of_mem_exits {exit : Exit} (h : exit ∈ a.exits) :
    a.blocks[exit.index]? = some exit.block ∧ exit.child ∈ exit.block.children := by
  obtain ⟨⟨block, index⟩, hblock, hexit⟩ := List.mem_flatMap.mp h
  obtain ⟨⟨child, place⟩, hchild, rfl⟩ := List.mem_map.mp hexit
  rw [List.mem_zipIdx_iff_getElem?, Array.getElem?_toList] at hblock
  rw [List.mem_zipIdx_iff_getElem?] at hchild
  exact ⟨hblock, List.mem_of_getElem? hchild⟩

/-- The edge from a block to a child of it draws this way out. -/
theorem draws_of_edge {exit : Exit} {type : EdgeType} {edge : Edge}
    (h : a.edge exit.block exit.child type = .ok edge)
    (htype : exit.block.childTypes[exit.place]? = some type) : a.Draws exit edge := by
  obtain ⟨child, hchild, heq⟩ := bind_eq_ok_iff.mp h
  cases heq
  refine { source := rfl, target := ⟨child, hchild, rfl, ?_⟩, type := htype }
  rw [text_edge, Edge.text]
  apply String.toList_inj.mp
  simp [NodeName.text]

/-- The edges of a block draw its ways out. -/
theorem draws_of_blockEdges {index : Nat} {block : Block} {edges : List Edge}
    (hwf : block.WellFormed a) (h : a.blockEdges block = .ok edges) :
    List.Forall₂ a.Draws (exitsOf index block) edges := by
  have hedges := forall₂_of_mapM_eq_ok h
  rw [List.forall₂_iff_get] at hedges ⊢
  obtain ⟨hlength, hedge⟩ := hedges
  have hchildren : (exitsOf index block).length = (block.children.zip block.childTypes).length := by
    rw [exitsOf, List.length_map, List.length_zipIdx, List.length_zip, hwf.edgesTyped, Nat.min_self]
  refine ⟨hchildren.trans hlength, fun place hplace hedges => ?_⟩
  have hpair := hedge place (hchildren ▸ hplace) hedges
  simp only [List.get_eq_getElem, List.getElem_zip] at hpair
  simp only [List.get_eq_getElem, exitsOf, List.getElem_map, List.getElem_zipIdx, Nat.zero_add]
  exact draws_of_edge hpair (List.getElem?_eq_getElem _)

/-- The edges of a flowchart draw the ways out of the blocks. -/
theorem draws_of_flowchart (wf : a.WellFormed) {graph : Graph}
    (h : a.flowchart game withTags = .ok graph) : List.Forall₂ a.Draws a.exits graph.edges := by
  obtain ⟨found, _, hrest⟩ := bind_eq_ok_iff.mp h
  obtain ⟨edges, hedges, heq⟩ := bind_eq_ok_iff.mp hrest
  cases heq
  have hblocks := forall₂_of_mapM_eq_ok hedges
  have hwf : ∀ block ∈ a.blocks.toList, block.WellFormed a := fun block hblock =>
    wf.blocks block (Array.mem_toList_iff.mp hblock)
  clear hedges h hrest
  rw [exits]
  generalize a.blocks.toList = blocks at hblocks hwf
  generalize 0 = index
  induction hblocks generalizing index with
  | nil => exact .nil
  | @cons block edges _ _ hedges _ ih =>
      rw [List.forall_mem_cons] at hwf
      rw [List.zipIdx_cons, List.flatMap_cons, List.flatten_cons]
      exact List.rel_append (draws_of_blockEdges hwf.1 hedges) (ih hwf.2 (index + 1))

end Exits

section Declared

variable (wf : a.WellFormed)

include wf

/-- The blocks that are drawn are those that are charted. -/
theorem drawn_iff {index : Nat} : a.Drawn game withTags index ↔ index ∈ a.charted := by
  have hbegins {sub : SubRoutine} (hsub : sub ∈ a.subRoutines) :
      (∃ cluster, a.cluster? game withTags sub = .ok (some cluster)) ↔ a.begins sub := by
    obtain ⟨found, hfound, _⟩ :=
      (yields_cluster? wf game withTags (wf.subRoutines sub hsub)).exists_value
    rw [hfound, ← isSome_cluster? wf (wf.subRoutines sub hsub) hfound, Option.isSome_iff_exists]
    simp
  simp only [Drawn, charted, List.mem_flatMap, List.mem_filter, Array.mem_toList_iff]
  constructor
  · rintro ⟨sub, hsub, hcluster, hindex⟩
    exact ⟨sub, ⟨hsub, (hbegins hsub).mp hcluster⟩, hindex⟩
  · rintro ⟨sub, ⟨hsub, hbegin⟩, hindex⟩
    exact ⟨sub, hsub, (hbegins hsub).mpr hbegin, hindex⟩

/-- The nodes of a block that is drawn are declared. -/
theorem declares_of_drawn {graph : Graph} (h : a.flowchart game withTags = .ok graph)
    {index : Nat} {block : Block} (hblock : a.blocks[index]? = some block)
    (hdrawn : a.Drawn game withTags index) {place : Nat}
    (hplace : place < nodeCount block.instructions.length) :
    graph.Declares ⟨block.address, place⟩ := by
  rw [Graph.declares_iff, names_nodes wf h, List.mem_flatMap]
  refine ⟨index, (drawn_iff wf).mp hdrawn, ?_⟩
  rw [nodeNames, hblock]
  exact List.mem_map.mpr ⟨place, List.mem_range.mpr hplace, rfl⟩

/-- The ends of an edge are declared if the blocks are drawn. -/
theorem Draws.declared {graph : Graph} (h : a.flowchart game withTags = .ok graph) {exit : Exit}
    (hexit : exit ∈ a.exits) {edge : Edge} (hedge : a.Draws exit edge) :
    (a.Drawn game withTags exit.index → graph.Declares edge.source) ∧
      (a.Drawn game withTags exit.child.index.toNat → graph.Declares edge.target) := by
  constructor
  · intro hdrawn
    rw [hedge.source]
    have hcount : 0 < nodeCount exit.block.instructions.length := Nat.le_max_left ..
    exact declares_of_drawn wf h (block_of_mem_exits hexit).1 hdrawn (by omega)
  · intro hdrawn
    obtain ⟨child, hchild, htarget, _⟩ := hedge.target
    rw [htarget]
    exact declares_of_drawn wf h (getElem?_of_blockAt hchild) hdrawn (Nat.le_max_left ..)

end Declared

section Distinct

variable (distinct : (a.blocks.toList.map Block.address).Nodup)

include distinct

/-- Where no two blocks share an address, it tells the place of its block. -/
theorem index_eq_of_address_eq {first second : Nat} {block other : Block}
    (hblock : a.blocks[first]? = some block) (hother : a.blocks[second]? = some other)
    (haddress : block.address = other.address) : first = second := by
  have hget {index : Nat} {block : Block} (h : a.blocks[index]? = some block) :
      (a.blocks.toList.map Block.address)[index]? = some block.address := by
    rw [List.getElem?_map, Array.getElem?_toList, h]
    rfl
  have hsame := (hget hblock).trans (haddress ▸ (hget hother).symm)
  have hinside := (List.getElem?_eq_some_iff.mp (hget hblock)).1
  exact (List.getElem?_inj hinside distinct).mp hsame

/-- Where no block is listed twice either, no two nodes have the same name. -/
theorem nodup_nodeNames (listedOnce : a.listed.Nodup) :
    (a.charted.flatMap a.nodeNames).Nodup := by
  have hcharted : a.charted.Nodup :=
    ((List.filter_sublist).flatMap SubRoutine.listed).nodup listedOnce
  have hname {index : Nat} {name : NodeName} (h : name ∈ a.nodeNames index) :
      ∃ block, a.blocks[index]? = some block ∧ name.address = block.address := by
    unfold nodeNames at h
    split at h
    · next block hblock =>
        obtain ⟨_, _, rfl⟩ := List.mem_map.mp h
        exact ⟨block, hblock, rfl⟩
    · cases h
  rw [List.nodup_flatMap]
  refine ⟨fun index _ => ?own, hcharted.imp fun {first second} hne => ?others⟩
  case own =>
    unfold nodeNames
    split
    · exact List.nodup_range.map fun _ _ h => congrArg NodeName.index h
    · exact List.nodup_nil
  case others =>
    intro name hfirst hsecond
    obtain ⟨block, hblock, haddress⟩ := hname hfirst
    obtain ⟨other, hother, hsame⟩ := hname hsecond
    exact hne (index_eq_of_address_eq distinct hblock hother (haddress.symm.trans hsame))

/-- The two ends of an edge tell which way out it draws. -/
theorem Draws.exit_eq {exit other : Exit} (hexit : exit ∈ a.exits) (hother : other ∈ a.exits)
    {edge twin : Edge} (hedge : a.Draws exit edge) (htwin : a.Draws other twin)
    (hsource : edge.source = twin.source) (htarget : edge.target = twin.target) :
    exit.index = other.index ∧ exit.child = other.child := by
  rw [hedge.source, htwin.source, NodeName.mk.injEq] at hsource
  obtain ⟨child, hchild, hentered, _⟩ := hedge.target
  obtain ⟨child', hchild', hentered', _⟩ := htwin.target
  rw [hentered, hentered', NodeName.mk.injEq] at htarget
  have hindices := index_eq_of_address_eq distinct (getElem?_of_blockAt hchild)
    (getElem?_of_blockAt hchild') htarget.1
  refine ⟨index_eq_of_address_eq distinct (block_of_mem_exits hexit).1
    (block_of_mem_exits hother).1 hsource.1, ?_⟩
  exact congrArg BlockId.mk (UInt64.toNat_inj.mp hindices)

end Distinct

/-- What is written of an accepted script has an edge for each way out of a block, in order.
The ends of an edge are declared where their blocks are drawn, which are those that are listed
by a subroutine that begins with an instruction; and so are the nodes that are tied together,
which are all those of a block. If no two blocks share an address and none is listed twice, then
no name is declared twice, and the two names of an edge tell the block and the child. -/
theorem edges_between_nodes (a : Analysis) (game : Game) (withTags : Bool)
    (accepted : a.check = .ok ()) :
    ∃ graph, a.flowchart game withTags = .ok graph ∧
      (a.printFlowchart game withTags).text = .ok (written graph.statements) ∧
      List.Forall₂ a.Draws a.exits (graph.statements.filterMap Statement.edge?) ∧
      (∀ index, a.Drawn game withTags index ↔ index ∈ a.charted) ∧
      (∀ exit ∈ a.exits, ∀ edge, a.Draws exit edge →
        (a.Drawn game withTags exit.index → graph.Declares edge.source) ∧
          (a.Drawn game withTags exit.child.index.toNat → graph.Declares edge.target)) ∧
      (∀ nodes, Statement.chain nodes ∈ graph.statements →
        (∀ node ∈ nodes, graph.Declares node.name) ∧
          ∃ block ∈ a.blocks, nodes.map Node.name =
            (List.range (nodeCount block.instructions.length)).map
              (NodeName.mk block.address)) ∧
      ((a.blocks.toList.map Block.address).Nodup → a.listed.Nodup →
        ((graph.statements.filterMap Statement.node?).map fun node => node.name.text).Nodup ∧
          ∀ exit ∈ a.exits, ∀ edge, a.Draws exit edge →
            ∀ other ∈ a.exits, ∀ twin, a.Draws other twin →
              edge.source.text = twin.source.text → edge.target.text = twin.target.text →
                exit.index = other.index ∧ exit.child = other.child) := by
  have wf := check_eq_ok_iff_wellFormed.mp accepted
  obtain ⟨graph, hgraph, _⟩ := (yields_flowchart wf game withTags).exists_value
  have hedges := draws_of_flowchart wf hgraph
  rw [← Graph.filterMap_edge?] at hedges
  refine ⟨graph, hgraph, text_printFlowchart wf hgraph, hedges, fun index => drawn_iff wf,
    fun exit hexit edge hedge => hedge.declared wf hgraph hexit, ?chains, ?distinct⟩
  case chains =>
    intro nodes hchain
    obtain ⟨hnodes, _⟩ := Graph.chain_mem_statements.mp hchain
    constructor
    · intro node hnode
      refine ⟨node, Graph.node_mem_statements.mpr ?_, rfl⟩
      rw [Graph.nodes_eq_flatten]
      exact List.mem_flatten_of_mem hnodes hnode
    · obtain ⟨index, _, block, hblock, hshown⟩ :=
        exists_of_forall₂ (shown_of_flowchart wf hgraph) hnodes
      exact ⟨block, Array.mem_of_getElem? hblock, names_blockNodes hshown⟩
  case distinct =>
    intro distinct listedOnce
    constructor
    · have hnames := nodup_nodeNames distinct listedOnce
      rw [← names_nodes wf hgraph, ← Graph.filterMap_node?] at hnames
      have htexts := hnames.map NodeName.text_injective
      rwa [List.map_map] at htexts
    · intro exit hexit edge hedge other hother twin htwin hsource htarget
      exact hedge.exit_eq distinct hexit hother htwin (NodeName.text_injective hsource)
        (NodeName.text_injective htarget)

/-- A loop has an edge back to its node and one to the node behind it, which has nothing
to show but its label. -/
theorem edges_between_nodes_unfinishedLoop :
    unfinishedLoop.check = .ok () ∧ ∃ graph, unfinishedLoop.flowchart {} false = .ok graph ∧
      (unfinishedLoop.printFlowchart {} false).text = .ok (written graph.statements) ∧
      ((graph.statements.filterMap Statement.edge?).map fun edge =>
        (edge.source.text, edge.target.text)) =
        [("b0000000D_0", "b0000000D_0"), ("b0000000D_0", "b00000015_0")] ∧
      (∀ edge ∈ graph.statements.filterMap Statement.edge?,
        graph.Declares edge.source ∧ graph.Declares edge.target) ∧
      ((graph.statements.filterMap Statement.node?).map fun node => node.name.text).Nodup := by
  have accepted : unfinishedLoop.check = .ok () := rfl
  obtain ⟨graph, hgraph, htext, hdraws, hdrawn, hdeclares, _, hdistinct⟩ :=
    edges_between_nodes unfinishedLoop {} false accepted
  have hexits : unfinishedLoop.exits = [
      ⟨0, unfinishedLoop.blocks[0], 0, ⟨0⟩⟩, ⟨0, unfinishedLoop.blocks[0], 1, ⟨1⟩⟩] := rfl
  have hcharted : unfinishedLoop.charted = [0, 1] := rfl
  refine ⟨accepted, graph, hgraph, htext, ?texts, ?declared, (hdistinct (by decide) (by decide)).1⟩
  case texts =>
    rw [hexits] at hdraws
    obtain ⟨back, _, hback, hrest, hedges⟩ := List.forall₂_cons_left_iff.mp hdraws
    obtain ⟨onward, _, honward, hnone, rfl⟩ := List.forall₂_cons_left_iff.mp hrest
    obtain ⟨_, hfirst, hbackTarget, _⟩ := hback.target
    obtain ⟨_, hsecond, honwardTarget, _⟩ := honward.target
    cases hfirst
    cases hsecond
    rw [hedges, List.forall₂_nil_left_iff.mp hnone]
    simp only [List.map_cons, List.map_nil, hback.source, honward.source, hbackTarget,
      honwardTarget]
    decide
  case declared =>
    intro edge hedge
    obtain ⟨exit, hexit, hdraw⟩ := exists_of_forall₂ hdraws hedge
    obtain ⟨hsource, htarget⟩ := hdeclares exit hexit edge hdraw
    rw [hexits] at hexit
    simp only [hdrawn, hcharted] at hsource htarget
    obtain rfl | rfl := List.mem_pair.mp hexit
    · exact ⟨hsource (by decide), htarget (by decide)⟩
    · exact ⟨hsource (by decide), htarget (by decide)⟩

end Analysis

end NwScript
