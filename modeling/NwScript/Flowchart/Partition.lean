/-
# Splitting a block into nodes

A block with many instructions would make a tall node, so it is split into
several that hold at most ten each and are filled as evenly as the order of the
instructions allows. A block without instructions still has one node, for its
label.
-/

namespace NwScript.Flowchart

/-- How many instructions a node may hold. -/
def nodeCapacity : Nat := 10

/-- How many groups of a given size are needed for so many things. -/
def groupsOf (size count : Nat) : Nat := (count + size - 1) / size

/-- How many nodes a block of so many instructions is split into. -/
def nodeCount (instructions : Nat) : Nat := max 1 (groupsOf nodeCapacity instructions)

/-- How many instructions each of the nodes holds. -/
def evenSizes (instructions : Nat) : List Nat :=
  let nodes := nodeCount instructions
  let perNode := groupsOf nodes instructions
  (List.range nodes).map fun i => min perNode (instructions - i * perNode)

/-- Cut a list into pieces of the given sizes, from the front. -/
def splitBySizes {α : Type} : List Nat → List α → List (List α)
  | [], _ => []
  | size :: sizes, l => l.take size :: splitBySizes sizes (l.drop size)

/-- There is a piece for every size. -/
theorem length_splitBySizes {α : Type} (sizes : List Nat) (l : List α) :
    (splitBySizes sizes l).length = sizes.length := by
  induction sizes generalizing l with
  | nil => rfl
  | cons size sizes ih => simp [splitBySizes, ih]

/-- The instructions of a block, node by node. -/
def partition {α : Type} (instructions : List α) : List (List α) :=
  splitBySizes (evenSizes instructions.length) instructions

end NwScript.Flowchart
