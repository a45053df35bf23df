/-
# The statements of a flowchart

A flowchart is a sequence of statements: for each cluster its head, the nodes of its blocks and
its foot, and behind all clusters the edges. Behind the nodes of a block stands a chain that ties
them together, if there are several, and between two blocks an empty line. What each statement
looks like is spelled out here; so what is said of the nodes, the chains and the edges among the
statements is said of the text.
-/

import NwScript.Proofs.Flowchart.Clusters

namespace NwScript.Flowchart

/-- A statement of a flowchart, or what stands around the statements. -/
inductive Statement
  | graphHead
  | clusterHead (address : UInt32) (label : String)
  | node (shown : Node)
  | chain (nodes : List Node)
  | gap
  | clusterFoot
  | edge (drawn : Edge)
  | graphFoot
  deriving DecidableEq

/-- How a statement is written. -/
def Statement.text : Statement → String
  | .graphHead => "digraph \x7b\n  overlap=false\n  concentrate=true\n  splines=ortho\n\n"
  | .clusterHead address label =>
      "  subgraph cluster_s" ++ Text.hex32 address ++ " \x7b\n" ++
        "    style=filled\n" ++
        "    color=lightgrey\n" ++
        "    label=\"" ++ Text.quote label ++ "\"\n\n"
  | .node shown =>
      "    \"" ++ shown.name.text ++ "\" [ shape=\"box\" label=\"" ++
        (shown.tagsText ++ shown.titleText ++
          String.join (shown.lines.map fun line => "  " ++ Text.quote line ++ "\\l")) ++ "\" ]\n"
  | .chain nodes =>
      "    " ++ " -> ".intercalate (nodes.map fun shown => shown.name.text) ++ " [ style=dotted ]\n"
  | .gap => "\n"
  | .clusterFoot => "  \x7d\n\n"
  | .edge drawn =>
      "  " ++ drawn.source.text ++ " -> " ++ drawn.target.text ++
        " [ " ++ drawn.attributes ++ " ]\n"
  | .graphFoot => "\x7d\n"

/-- Statements that are written one after the other. -/
def written (statements : List Statement) : String := String.join (statements.map Statement.text)

/-- The statements of a block with these nodes. -/
def blockStatements (nodes : List Node) : List Statement :=
  nodes.map .node ++ if 1 < nodes.length then [.chain nodes] else []

/-- The statements of a cluster. -/
def Cluster.statements (cluster : Cluster) : List Statement :=
  .clusterHead cluster.address cluster.label ::
    ([Statement.gap].intercalate (cluster.blocks.map blockStatements) ++ [.clusterFoot])

/-- The statements of a flowchart. -/
def Graph.statements (graph : Graph) : List Statement :=
  .graphHead :: (graph.clusters.flatMap Cluster.statements ++ graph.edges.map .edge ++ [.graphFoot])

section Writing

variable {first second : List Statement}

@[simp]
theorem written_nil : written [] = "" := rfl

@[simp]
theorem written_cons (statement : Statement) (rest : List Statement) :
    written (statement :: rest) = statement.text ++ written rest :=
  String.join_cons

@[simp]
theorem written_append : written (first ++ second) = written first ++ written second := by
  simp [written]

/-- Groups of statements are written group by group. -/
theorem written_flatMap {α : Type} (statements : α → List Statement) (l : List α) :
    written (l.flatMap statements) = String.join (l.map fun x => written (statements x)) :=
  join_map_flatMap Statement.text statements l

/-- What stands between groups of statements is written between them. -/
theorem written_intercalate_gap (groups : List (List Statement)) :
    written ([Statement.gap].intercalate groups) = "\n".intercalate (groups.map written) := by
  induction groups with
  | nil => rfl
  | cons group rest ih =>
      cases rest with
      | nil => simp
      | cons next rest =>
          rw [List.intercalate_cons_cons, written_append, written_append, ih, List.map_cons,
            List.map_cons, List.map_cons, String.intercalate_cons_cons]
          rfl

theorem text_node (shown : Node) : (Statement.node shown).text = shown.text := rfl

theorem text_edge (drawn : Edge) : (Statement.edge drawn).text = drawn.text := rfl

/-- A block is written as its statements. -/
theorem written_blockStatements (nodes : List Node) :
    written (blockStatements nodes) = blockText nodes := by
  have hnodes : written (nodes.map .node) = String.join (nodes.map Node.text) := by
    rw [written, List.map_map]
    rfl
  rw [blockStatements, written_append, hnodes, blockText, chainText]
  split
  · rw [written_cons, written_nil, String.append_empty]
    rfl
  · rfl

/-- So is a cluster. -/
theorem Cluster.written_statements (cluster : Cluster) :
    written cluster.statements = cluster.text := by
  have hblocks : (cluster.blocks.map blockStatements).map written =
      cluster.blocks.map blockText := by
    rw [List.map_map]
    exact List.map_congr_left fun nodes _ => written_blockStatements nodes
  calc written cluster.statements
      = (Statement.clusterHead cluster.address cluster.label).text ++
          ("\n".intercalate (cluster.blocks.map blockText) ++ Statement.clusterFoot.text) := by
        rw [statements, written_cons, written_append, written_intercalate_gap, hblocks,
          written_cons, written_nil, String.append_empty]
    _ = cluster.text := String.append_assoc.symm

/-- A flowchart is written as its statements. -/
theorem Graph.written_statements (graph : Graph) :
    written graph.statements = String.join graph.pieces := by
  have hedges : written (graph.edges.map .edge) = String.join (graph.edges.map Edge.text) := by
    rw [written, List.map_map]
    rfl
  simp only [statements, pieces, written_cons, written_append, written_flatMap,
    Cluster.written_statements, hedges, String.join_cons, String.join_append, written_nil,
    String.append_assoc]
  rfl

end Writing

section Kinds

/-- The node that a statement declares. -/
def Statement.node? : Statement → Option Node
  | .node shown => some shown
  | _ => none

/-- The nodes that a statement ties together. -/
def Statement.chain? : Statement → Option (List Node)
  | .chain nodes => some nodes
  | _ => none

/-- The edge that a statement draws. -/
def Statement.edge? : Statement → Option Edge
  | .edge drawn => some drawn
  | _ => none

theorem Statement.node?_eq_some_iff {statement : Statement} {shown : Node} :
    statement.node? = some shown ↔ statement = .node shown := by
  cases statement <;> simp [node?]

theorem Statement.chain?_eq_some_iff {statement : Statement} {nodes : List Node} :
    statement.chain? = some nodes ↔ statement = .chain nodes := by
  cases statement <;> simp [chain?]

/-- Nothing is picked from what stands around the statements. -/
structure PicksStatements {β : Type} (pick : Statement → Option β) : Prop where
  graphHead : pick .graphHead = none := by rfl
  clusterHead : ∀ address label, pick (.clusterHead address label) = none := by intros; rfl
  gap : pick .gap = none := by rfl
  clusterFoot : pick .clusterFoot = none := by rfl
  graphFoot : pick .graphFoot = none := by rfl

section Picking

variable {β : Type} {pick : Statement → Option β} (picks : PicksStatements pick)

include picks

/-- What is picked from groups of statements is picked group by group. -/
theorem filterMap_intercalate_gap (groups : List (List Statement)) :
    ([Statement.gap].intercalate groups).filterMap pick = groups.flatMap (List.filterMap pick) := by
  induction groups with
  | nil => rfl
  | cons group rest ih =>
      cases rest with
      | nil => simp
      | cons next rest =>
          rw [List.intercalate_cons_cons, List.filterMap_append, List.filterMap_append, ih,
            List.filterMap_cons_none picks.gap, List.filterMap_nil, List.append_nil]
          rfl

/-- What is picked from a cluster is picked block by block. -/
theorem Cluster.filterMap_statements (cluster : Cluster) :
    cluster.statements.filterMap pick =
      cluster.blocks.flatMap fun nodes => (blockStatements nodes).filterMap pick := by
  rw [statements, List.filterMap_cons_none (picks.clusterHead _ _), List.filterMap_append,
    filterMap_intercalate_gap picks, List.filterMap_cons_none picks.clusterFoot,
    List.filterMap_nil, List.append_nil, List.flatMap_map]

/-- What is picked from a flowchart is picked from the blocks of its clusters and from its
edges. -/
theorem Graph.filterMap_statements (graph : Graph) :
    graph.statements.filterMap pick =
      (graph.clusters.flatMap fun cluster => cluster.blocks.flatMap fun nodes =>
        (blockStatements nodes).filterMap pick) ++
        graph.edges.filterMap fun drawn => pick (.edge drawn) := by
  rw [statements, List.filterMap_cons_none picks.graphHead, List.filterMap_append,
    List.filterMap_append, List.filterMap_cons_none picks.graphFoot, List.filterMap_nil,
    List.append_nil, List.filterMap_flatMap, List.filterMap_map]
  simp only [Cluster.filterMap_statements picks]
  rfl

end Picking

/-- The nodes that a flowchart declares are those of its clusters, block by block. -/
theorem Graph.filterMap_node? (graph : Graph) :
    graph.statements.filterMap Statement.node? = graph.nodes := by
  have hblock (nodes : List Node) :
      (blockStatements nodes).filterMap Statement.node? = nodes := by
    rw [blockStatements, List.filterMap_append, List.filterMap_map]
    split <;> simp [Statement.node?, Function.comp_def]
  rw [Graph.filterMap_statements {}, nodes]
  simp [hblock, Statement.node?]

/-- The chains of a flowchart are the blocks of its clusters that have several nodes. -/
theorem Graph.filterMap_chain? (graph : Graph) :
    graph.statements.filterMap Statement.chain? =
      (graph.clusters.flatMap Cluster.blocks).filter fun nodes => 1 < nodes.length := by
  have hblock (nodes : List Node) : (blockStatements nodes).filterMap Statement.chain? =
      [nodes].filter fun nodes => 1 < nodes.length := by
    rw [blockStatements, List.filterMap_append, List.filterMap_map]
    split <;> simp_all [Statement.chain?, Function.comp_def]
  rw [Graph.filterMap_statements {}, List.filter_flatMap]
  simp only [hblock, ← List.filter_flatMap]
  simp [Statement.chain?]

/-- A flowchart declares its nodes. -/
theorem Graph.node_mem_statements {graph : Graph} {shown : Node} :
    .node shown ∈ graph.statements ↔ shown ∈ graph.nodes := by
  simp [← Graph.filterMap_node?, List.mem_filterMap, Statement.node?_eq_some_iff]

/-- A flowchart ties the nodes of a block together exactly if there are several. -/
theorem Graph.chain_mem_statements {graph : Graph} {nodes : List Node} :
    .chain nodes ∈ graph.statements ↔
      nodes ∈ graph.clusters.flatMap Cluster.blocks ∧ 1 < nodes.length := by
  have hpicked := congrArg (nodes ∈ ·) graph.filterMap_chain?
  simpa [List.mem_filterMap, Statement.chain?_eq_some_iff] using hpicked

/-- The edges that a flowchart draws are its edges. -/
theorem Graph.filterMap_edge? (graph : Graph) :
    graph.statements.filterMap Statement.edge? = graph.edges := by
  have hblock (nodes : List Node) : (blockStatements nodes).filterMap Statement.edge? = [] := by
    rw [blockStatements]
    split <;> simp [Statement.edge?]
  rw [Graph.filterMap_statements {}]
  simp [hblock, Statement.edge?]

end Kinds

end NwScript.Flowchart

namespace NwScript.Analysis

open Flowchart

/-- What is written of an accepted script are the statements of its flowchart. -/
theorem text_printFlowchart {a : Analysis} (wf : a.WellFormed) {game : Game} {withTags : Bool}
    {graph : Graph} (h : a.flowchart game withTags = .ok graph) :
    (a.printFlowchart game withTags).text = .ok (written graph.statements) := by
  rw [Transcript.text, result_printFlowchart wf, outputs_printFlowchart h,
    Graph.written_statements]
  rfl

end NwScript.Analysis
