/-
# What clusters show

A subroutine has a cluster exactly if it begins with an instruction, and its cluster
shows the blocks that it lists, in their order. So the nodes of a flowchart are known
from the lists of the subroutines: the blocks that are charted, one after the other,
each with a node for every piece of it.
-/

import Mathlib
import NwScript.Proofs.Flowchart.Partition
import NwScript.Proofs.Graph.Ownership
import NwScript.Proofs.Resolution.Forms

namespace NwScript

open Flowchart

/-- The nodes of a flowchart, cluster by cluster and block by block. -/
def Flowchart.Graph.nodes (graph : Graph) : List Node :=
  graph.clusters.flatMap fun cluster => cluster.blocks.flatten

/-- They are the nodes of the blocks that the clusters show. -/
theorem Flowchart.Graph.nodes_eq_flatten (graph : Graph) :
    graph.nodes = (graph.clusters.flatMap Cluster.blocks).flatten := by
  rw [nodes, ← List.flatMap_id, List.flatMap_assoc]
  simp only [List.flatMap_id]

namespace Analysis

/-- Whether a subroutine begins with an instruction. -/
def begins (a : Analysis) (sub : SubRoutine) : Bool :=
  match a.entryInstruction? sub with
  | .ok (some _) => true
  | _ => false

/-- The blocks that are charted, by their places: those that are listed by a subroutine
which begins with an instruction. -/
def charted (a : Analysis) : List Nat :=
  (a.subRoutines.toList.filter a.begins).flatMap SubRoutine.listed

/-- The names of the nodes of the block at a place. -/
def nodeNames (a : Analysis) (index : Nat) : List NodeName :=
  match a.blocks[index]? with
  | some block => (List.range (nodeCount block.instructions.length)).map (NodeName.mk block.address)
  | none => []

variable {a : Analysis} {game : Game} {withTags : Bool}

/-- The nodes of the block at a place. -/
def ShowsPlace (a : Analysis) (game : Game) (withTags : Bool) (index : Nat)
    (nodes : List Node) : Prop :=
  ∃ block, a.blocks[index]? = some block ∧ a.blockNodes game withTags block = .ok nodes

/-- The nodes of the block that an index leads to. -/
def ShowsBlock (a : Analysis) (game : Game) (withTags : Bool) (id : BlockId)
    (nodes : List Node) : Prop :=
  ∃ block, a.blockAt id = .ok block ∧ a.blockNodes game withTags block = .ok nodes

section Nodes

/-- The nodes of a block hold the pieces of its partition. -/
theorem lines_blockNodes {block : Block} {nodes : List Node}
    (h : a.blockNodes game withTags block = .ok nodes) :
    ∃ texts, a.blockLines game block = .ok texts ∧ nodes.map Node.lines = partition texts := by
  obtain ⟨title, _, hrest⟩ := bind_eq_ok_iff.mp h
  obtain ⟨texts, htexts, heq⟩ := bind_eq_ok_iff.mp hrest
  cases heq
  refine ⟨texts, htexts, ?_⟩
  rw [List.map_map]
  exact List.zipIdx_map_fst 0 (partition texts)

/-- There is a text for each instruction of a block. -/
theorem length_blockLines {block : Block} {texts : List String}
    (h : a.blockLines game block = .ok texts) : texts.length = block.instructions.length :=
  (forall₂_of_mapM_eq_ok h).length_eq.symm

/-- The nodes of a block are named by its address and counted from its first one. -/
theorem names_blockNodes {block : Block} {nodes : List Node}
    (h : a.blockNodes game withTags block = .ok nodes) :
    nodes.map Node.name =
      (List.range (nodeCount block.instructions.length)).map (NodeName.mk block.address) := by
  obtain ⟨title, _, hrest⟩ := bind_eq_ok_iff.mp h
  obtain ⟨texts, htexts, heq⟩ := bind_eq_ok_iff.mp hrest
  cases heq
  rw [List.map_map, ← length_blockLines htexts, ← length_partition, List.range_eq_range',
    ← List.zipIdx_map_snd 0 (partition texts), List.map_map]
  rfl

end Nodes

section Clusters

variable {sub : SubRoutine}

/-- A cluster is that of a subroutine that begins with an instruction, and shows the
blocks that the subroutine lists. -/
theorem shown_of_cluster? {cluster : Cluster}
    (h : a.cluster? game withTags sub = .ok (some cluster)) :
    List.Forall₂ (a.ShowsBlock game withTags) sub.blocks cluster.blocks := by
  unfold cluster? at h
  split at h
  · cases h
  · obtain ⟨first, _, hfirst⟩ := bind_eq_ok_iff.mp h
    split at hfirst
    · cases hfirst
    · obtain ⟨label, _, hlabel⟩ := bind_eq_ok_iff.mp hfirst
      obtain ⟨blocks, hblocks, heq⟩ := bind_eq_ok_iff.mp hlabel
      cases heq
      exact (forall₂_of_mapM_eq_ok hblocks).imp fun _ _ hnodes => bind_eq_ok_iff.mp hnodes

/-- A well-formed subroutine has a cluster exactly if it begins with an instruction. -/
theorem isSome_cluster? (wf : a.WellFormed) (hsub : sub.WellFormed a) {found : Option Cluster}
    (h : a.cluster? game withTags sub = .ok found) : found.isSome = a.begins sub := by
  unfold cluster? at h
  cases hblocks : sub.blocks with
  | nil =>
      rw [hblocks] at h
      cases h
      simp [begins, entryInstruction?, hblocks, pure, Except.pure]
  | cons first rest =>
      rw [hblocks] at h
      obtain ⟨block, hblock, hfirst⟩ := bind_eq_ok_iff.mp h
      have hentry : a.entryInstruction? sub = a.firstInstruction? block := by
        rw [entryInstruction?, hblocks]
        dsimp only
        rw [hblock]
        rfl
      have hinstructions := ((wf.blockAt (hsub.blocks first (hblocks ▸ List.mem_cons_self))).of_ok
        hblock).instructions
      split at hfirst
      · next hempty =>
          cases hfirst
          rw [begins, hentry, firstInstruction?, List.isEmpty_iff.mp hempty]
          rfl
      · next hsome =>
          obtain ⟨label, _, hlabel⟩ := bind_eq_ok_iff.mp hfirst
          obtain ⟨blocks, _, heq⟩ := bind_eq_ok_iff.mp hlabel
          cases heq
          obtain ⟨id, others, hids⟩ := List.exists_cons_of_ne_nil
            (fun hempty => hsome (List.isEmpty_iff.mpr hempty))
          obtain ⟨instr, hinstr, _⟩ := (wf.instructionAt
            (hinstructions id (hids ▸ List.mem_cons_self))).exists_value
          rw [begins, hentry, firstInstruction?, hids]
          simp [hinstr]

/-- The clusters of some subroutines show the blocks that these list, one subroutine after
the other, those left out that do not begin with an instruction. -/
theorem shown_of_clusters (wf : a.WellFormed) {subs : List SubRoutine}
    {found : List (Option Cluster)} (hsubs : ∀ sub ∈ subs, sub.WellFormed a)
    (h : List.Forall₂ (fun sub cluster => a.cluster? game withTags sub = .ok cluster)
      subs found) :
    List.Forall₂ (a.ShowsPlace game withTags) ((subs.filter a.begins).flatMap SubRoutine.listed)
      ((found.filterMap id).flatMap Cluster.blocks) := by
  induction h with
  | nil => exact .nil
  | @cons sub found subs others hsub _ ih =>
      rw [List.forall_mem_cons] at hsubs
      have hrest := ih hsubs.2
      have hbegins := isSome_cluster? wf hsubs.1 hsub
      cases found with
      | none =>
          rw [List.filter_cons_of_neg (by simp [← hbegins])]
          exact hrest
      | some cluster =>
          have hown : List.Forall₂ (a.ShowsPlace game withTags) sub.listed cluster.blocks := by
            rw [SubRoutine.listed, List.forall₂_map_left_iff]
            refine (shown_of_cluster? hsub).imp fun id nodes => ?_
            rintro ⟨block, hblock, hnodes⟩
            exact ⟨block, getElem?_of_blockAt hblock, hnodes⟩
          rw [List.filter_cons_of_pos (by simp [← hbegins]), List.filterMap_cons_some (f := id) rfl]
          exact List.rel_append hown hrest

/-- The nodes that are shown of some blocks are named block by block. -/
theorem names_of_showsPlace {places : List Nat} {shown : List (List Node)}
    (h : List.Forall₂ (a.ShowsPlace game withTags) places shown) :
    shown.flatten.map Node.name = places.flatMap a.nodeNames := by
  induction h with
  | nil => rfl
  | @cons index nodes _ _ hshows _ ih =>
      obtain ⟨block, hblock, hnodes⟩ := hshows
      have hown : nodes.map Node.name = a.nodeNames index := by
        rw [nodeNames, hblock]
        exact names_blockNodes hnodes
      rw [List.flatten_cons, List.map_append, List.flatMap_cons, ih, hown]

end Clusters

section Flowcharts

variable {graph : Graph}

/-- The clusters of a flowchart are those of the subroutines that have one. -/
theorem exists_of_mem_clusters (h : a.flowchart game withTags = .ok graph) {cluster : Cluster}
    (hcluster : cluster ∈ graph.clusters) :
    ∃ sub ∈ a.subRoutines, a.cluster? game withTags sub = .ok (some cluster) := by
  obtain ⟨found, hfound, hrest⟩ := bind_eq_ok_iff.mp h
  obtain ⟨edges, _, heq⟩ := bind_eq_ok_iff.mp hrest
  cases heq
  rw [List.mem_filterMap] at hcluster
  obtain ⟨_, hmem, rfl⟩ := hcluster
  obtain ⟨sub, hsub, hsome⟩ := exists_of_mapM_eq_ok hfound hmem
  exact ⟨sub, Array.mem_toList_iff.mp hsub, hsome⟩

/-- The blocks of a flowchart are the charted ones, in the order in which these are listed. -/
theorem shown_of_flowchart (wf : a.WellFormed) (h : a.flowchart game withTags = .ok graph) :
    List.Forall₂ (a.ShowsPlace game withTags) a.charted
      (graph.clusters.flatMap Cluster.blocks) := by
  obtain ⟨found, hfound, hrest⟩ := bind_eq_ok_iff.mp h
  obtain ⟨edges, _, heq⟩ := bind_eq_ok_iff.mp hrest
  cases heq
  exact shown_of_clusters wf
    (fun sub hsub => wf.subRoutines sub (Array.mem_toList_iff.mp hsub))
    (forall₂_of_mapM_eq_ok hfound)

/-- So the nodes of a flowchart are those of the charted blocks. -/
theorem names_nodes (wf : a.WellFormed) (h : a.flowchart game withTags = .ok graph) :
    graph.nodes.map Node.name = a.charted.flatMap a.nodeNames := by
  rw [Graph.nodes_eq_flatten]
  exact names_of_showsPlace (shown_of_flowchart wf h)

/-- What is put out of a flowchart are its pieces. -/
theorem outputs_printFlowchart (h : a.flowchart game withTags = .ok graph) :
    (a.printFlowchart game withTags).outputs = graph.pieces := by
  have hwritten := Transcript.outputs_forM_write (fun piece => piece) graph.pieces
  rw [printFlowchart, Transcript.outputs_liftM_bind_of_ok (Outcome.ofResolved_eq_ok_iff.mpr h),
    Transcript.outputs_bind_of_ok (Transcript.result_forM_write _ _), hwritten,
    Transcript.outputs_log, List.append_nil, List.map_id']

end Flowcharts

end Analysis

end NwScript
