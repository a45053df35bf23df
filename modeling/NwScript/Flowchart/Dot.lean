/-
# Flowcharts in the DOT language

How clusters, nodes and edges are written. A label is a quoted string in which
`\l` and `\n` end lines; what the label shows of an instruction is escaped, so
that it cannot end the string.
-/

import NwScript.Flowchart.Graph
import NwScript.Transcript

namespace NwScript

/-- The color that tells why control passes along an edge. -/
def EdgeType.color : EdgeType → String
  | unconditional => "blue"
  | conditionalTrue => "green"
  | conditionalFalse => "red"
  | subRoutineCall => "cyan"
  | subRoutineTail => "orange"
  | subRoutineStore => "purple"
  | dead => "gray40"

/-- The tag of a control structure. -/
def ControlType.tag : ControlType → String
  | none => "<NONE>"
  | doWhileHead => "<DOWHILEHEAD>"
  | doWhileTail => "<DOWHILETAIL>"
  | doWhileNext => "<DOWHILENEXT>"
  | whileHead => "<WHILEHEAD>"
  | whileTail => "<WHILETAIL>"
  | whileNext => "<WHILENEXT>"
  | breaks => "<BREAK>"
  | continues => "<CONTINUE>"
  | returns => "<RETURN>"
  | ifCond => "<IFCOND>"
  | ifTrue => "<IFTRUE>"
  | ifElse => "<IFELSE>"
  | ifNext => "<IFNEXT>"
  | unknown => "<>"

namespace Flowchart

/-- The name of a node, unique to the address and the place in the chain. -/
def NodeName.text (name : NodeName) : String :=
  "b" ++ Text.hex32 name.address ++ "_" ++ toString name.index

namespace Node

/-- The tags of a node, each on a line of its own, and an empty line. -/
def tagsText (node : Node) : String :=
  if node.tags.isEmpty then ""
  else String.join (node.tags.map fun role => role.tag ++ "\\n") ++ "\\n"

/-- The title of a node. -/
def titleText (node : Node) : String :=
  match node.title with
  | some title => title ++ ":\\l"
  | none => ""

/-- The label of a node, as it stands between quotes. -/
def labelText (node : Node) : String :=
  node.tagsText ++ node.titleText ++
    String.join (node.lines.map fun line => "  " ++ Text.quote line ++ "\\l")

/-- The statement that declares a node. -/
def text (node : Node) : String :=
  "    \"" ++ node.name.text ++ "\" [ shape=\"box\" label=\"" ++ node.labelText ++ "\" ]\n"

end Node

/-- The statement that ties the nodes of a block together, if it has several. -/
def chainText (nodes : List Node) : String :=
  if 1 < nodes.length then
    "    " ++ " -> ".intercalate (nodes.map fun node => node.name.text) ++
      " [ style=dotted ]\n"
  else ""

/-- The statements of a block. -/
def blockText (nodes : List Node) : String :=
  String.join (nodes.map Node.text) ++ chainText nodes

/-- The statements of a subroutine, with an empty line between two blocks. -/
def Cluster.text (cluster : Cluster) : String :=
  "  subgraph cluster_s" ++ Text.hex32 cluster.address ++ " \x7b\n" ++
    "    style=filled\n" ++
    "    color=lightgrey\n" ++
    "    label=\"" ++ Text.quote cluster.label ++ "\"\n\n" ++
    "\n".intercalate (cluster.blocks.map blockText) ++
    "  \x7d\n\n"

namespace Edge

/-- The attributes of an edge: its color, a bold line if it leads back, and no
say in the layout if it leads out of its subroutine. -/
def attributes (edge : Edge) : String :=
  "color=" ++ edge.type.color ++
    (if edge.backward then " style=bold" else "") ++
    (if edge.crossing then " constraint=false" else "")

/-- The statement that draws an edge. -/
def text (edge : Edge) : String :=
  "  " ++ edge.source.text ++ " -> " ++ edge.target.text ++ " [ " ++ edge.attributes ++ " ]\n"

end Edge

/-- What every graph begins with. -/
def headText : String :=
  "digraph \x7b\n" ++
    "  overlap=false\n" ++
    "  concentrate=true\n" ++
    "  splines=ortho\n\n"

/-- What every graph ends with. -/
def footText : String := "\x7d\n"

/-- The pieces of a graph, in the order in which they are written. -/
def Graph.pieces (graph : Graph) : List String :=
  headText :: (graph.clusters.map Cluster.text ++ graph.edges.map Edge.text ++ [footText])

end Flowchart

/-- Write the flowchart of a script, with the blocks tagged by their control
structures or without. -/
def Analysis.printFlowchart (a : Analysis) (game : Game) (printControlTypes : Bool) :
    Transcript String Unit := do
  let graph ← Outcome.ofResolved (a.flowchart game printControlTypes)
  graph.pieces.forM fun piece => .write piece
  .log (.wroteGraph a.blocks.size a.subRoutines.size)

end NwScript
