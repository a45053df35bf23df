/-
# Places in a partition

A block has at least one node, and its nodes hold all of its instructions: what
the first node holds, taken as often as there are nodes, is enough for them. So
an instruction finds its node by counting in steps of that size. The steps are no
larger than a node may be, so no node but that of an empty block is left without an
instruction, although it is rounded up twice: for the nodes and for what they hold.
-/

import Mathlib
import NwScript.Flowchart.Partition

namespace NwScript.Flowchart

/-- A number of groups is enough if that many times their size is. -/
theorem groupsOf_le_iff {size count groups : Nat} (h : 0 < size) :
    groupsOf size count ≤ groups ↔ count ≤ groups * size := by
  rw [groupsOf, ← Nat.lt_succ_iff, Nat.div_lt_iff_lt_mul h, Nat.succ_mul]
  omega

/-- Groups are not needed where there is nothing to put into them. -/
theorem groupsOf_le {size : Nat} (h : 0 < size) (count : Nat) : groupsOf size count ≤ count :=
  (groupsOf_le_iff h).mpr (Nat.le_mul_of_pos_right count h)

/-- Groups are needed where there is something to put into them. -/
theorem groupsOf_pos {size count : Nat} (h : 0 < size) (hcount : 0 < count) :
    0 < groupsOf size count := by
  rw [Nat.pos_iff_ne_zero]
  intro hnone
  have hempty := (groupsOf_le_iff h).mp (Nat.le_of_eq hnone)
  omega

/-- Every block has a node. -/
theorem nodeCount_pos (instructions : Nat) : 0 < nodeCount instructions :=
  Nat.le_max_left 1 _

/-- There is a size for each node. -/
theorem length_evenSizes (instructions : Nat) :
    (evenSizes instructions).length = nodeCount instructions := by
  simp [evenSizes]

/-- There is a piece for each node. -/
theorem length_partition {α : Type} (instructions : List α) :
    (partition instructions).length = nodeCount instructions.length := by
  rw [partition, length_splitBySizes, length_evenSizes]

/-- The first node is filled, as far as there are instructions. -/
theorem head?_evenSizes (instructions : Nat) :
    (evenSizes instructions).head? =
      some (groupsOf (nodeCount instructions) instructions) := by
  have hpos := nodeCount_pos instructions
  have hfits := groupsOf_le hpos instructions
  rw [evenSizes, List.head?_map, List.head?_range, if_neg (Nat.ne_of_gt hpos)]
  simp [hfits]

/-- No node holds more than it may. -/
theorem groupsOf_nodeCount_le (instructions : Nat) :
    groupsOf (nodeCount instructions) instructions ≤ nodeCapacity := by
  rw [groupsOf_le_iff (nodeCount_pos instructions), Nat.mul_comm, ← groupsOf_le_iff (by decide)]
  exact Nat.le_max_right 1 _

/-- Where there are instructions, each node begins at one of them. -/
theorem mul_groupsOf_lt {instructions i : Nat} (hpos : 0 < instructions)
    (hi : i < nodeCount instructions) :
    i * groupsOf (nodeCount instructions) instructions < instructions := by
  have hbegin : i * nodeCapacity < instructions := by
    by_cases hfirst : i = 0
    · rw [hfirst, Nat.zero_mul]
      exact hpos
    · have hneeded : ¬ groupsOf nodeCapacity instructions ≤ i := by
        unfold nodeCount at hi
        omega
      rw [groupsOf_le_iff (by decide)] at hneeded
      exact Nat.lt_of_not_le hneeded
  calc i * groupsOf (nodeCount instructions) instructions
      ≤ i * nodeCapacity := Nat.mul_le_mul_left i (groupsOf_nodeCount_le instructions)
    _ < instructions := hbegin

/-- No node begins past the last instruction. -/
theorem mul_groupsOf_le {instructions i : Nat} (hi : i < nodeCount instructions) :
    i * groupsOf (nodeCount instructions) instructions ≤ instructions := by
  cases instructions with
  | zero => simp [nodeCount, groupsOf, nodeCapacity] at hi ⊢
  | succ instructions => exact Nat.le_of_lt (mul_groupsOf_lt (Nat.succ_pos _) hi)

/-- So many nodes from the front hold what fits into them, as far as there is any. -/
theorem sum_range_min (size count nodes : Nat) :
    ((List.range nodes).map fun i => min size (count - i * size)).sum =
      min (nodes * size) count := by
  induction nodes with
  | zero => simp
  | succ nodes ih =>
      rw [List.range_succ, List.map_append, List.sum_append, ih, List.map_singleton,
        List.sum_singleton, Nat.succ_mul]
      omega

/-- The nodes from the front up to one hold what fits into them. -/
theorem sum_take_evenSizes {instructions nodes : Nat} (h : nodes ≤ nodeCount instructions) :
    ((evenSizes instructions).take nodes).sum =
      min (nodes * groupsOf (nodeCount instructions) instructions) instructions := by
  rw [evenSizes, ← List.map_take, List.take_range, Nat.min_eq_left h, sum_range_min]

/-- All nodes together hold all instructions. -/
theorem sum_evenSizes (instructions : Nat) : (evenSizes instructions).sum = instructions := by
  have henough : instructions ≤
      nodeCount instructions * groupsOf (nodeCount instructions) instructions := by
    rw [Nat.mul_comm]
    exact (groupsOf_le_iff (nodeCount_pos instructions)).mp (Nat.le_refl _)
  rw [evenSizes, sum_range_min, Nat.min_eq_right henough]

/-- A node holds at most what it may, and if there are instructions, at least one. -/
theorem bounds_of_mem_evenSizes {instructions size : Nat} (h : size ∈ evenSizes instructions) :
    size ≤ nodeCapacity ∧ (1 ≤ instructions → 1 ≤ size) := by
  obtain ⟨i, hi, rfl⟩ := List.mem_map.mp h
  rw [List.mem_range] at hi
  constructor
  · exact Nat.le_trans (Nat.min_le_left _ _) (groupsOf_nodeCount_le instructions)
  · intro hpos
    have hbegin := mul_groupsOf_lt hpos hi
    have hfill := groupsOf_pos (nodeCount_pos instructions) hpos
    omega

/-- Counting in steps of the size of the first node, every instruction falls into
a node. -/
theorem div_lt_nodeCount {instructions first i : Nat}
    (hfirst : (evenSizes instructions).head? = some first) (hi : i < instructions) :
    i / max 1 first < nodeCount instructions := by
  rw [head?_evenSizes, Option.some.injEq] at hfirst
  have henough : instructions ≤ first * nodeCount instructions :=
    (groupsOf_le_iff (nodeCount_pos instructions)).mp (Nat.le_of_eq hfirst)
  apply Nat.div_lt_of_lt_mul
  calc i < instructions := hi
    _ ≤ first * nodeCount instructions := henough
    _ ≤ max 1 first * nodeCount instructions :=
        Nat.mul_le_mul_right _ (Nat.le_max_right 1 first)

/-- Counting in steps of the size of the first node, every instruction of a block
falls into a piece of its partition. -/
theorem exists_first_node {α : Type} (instructions : List α) :
    ∃ first, (evenSizes instructions.length).head? = some first ∧
      ∀ i < instructions.length, i / max 1 first < (partition instructions).length := by
  have hfirst := head?_evenSizes instructions.length
  refine ⟨_, hfirst, ?_⟩
  intro i hi
  rw [length_partition]
  exact div_lt_nodeCount hfirst hi

section Pieces

variable {α : Type}

/-- Pieces whose sizes add up to the length of a list put the list together again. -/
theorem flatten_splitBySizes {sizes : List Nat} {l : List α} (h : sizes.sum = l.length) :
    (splitBySizes sizes l).flatten = l := by
  induction sizes generalizing l with
  | nil => exact (List.eq_nil_of_length_eq_zero h.symm).symm
  | cons size sizes ih =>
      rw [List.sum_cons] at h
      have hrest : sizes.sum = (l.drop size).length := by
        rw [List.length_drop]
        omega
      rw [splitBySizes, List.flatten_cons, ih hrest, List.take_append_drop]

/-- They have these sizes. -/
theorem map_length_splitBySizes {sizes : List Nat} {l : List α} (h : sizes.sum = l.length) :
    (splitBySizes sizes l).map List.length = sizes := by
  induction sizes generalizing l with
  | nil => rfl
  | cons size sizes ih =>
      rw [List.sum_cons] at h
      have hrest : sizes.sum = (l.drop size).length := by
        rw [List.length_drop]
        omega
      rw [splitBySizes, List.map_cons, ih hrest, List.length_take, Nat.min_eq_left (by omega)]

/-- A piece begins behind what the pieces before it hold. -/
theorem getElem?_splitBySizes (sizes : List Nat) (l : List α) (i : Nat) :
    (splitBySizes sizes l)[i]? =
      sizes[i]?.map fun size => (l.drop (sizes.take i).sum).take size := by
  induction sizes generalizing l i with
  | nil => rfl
  | cons size sizes ih =>
      cases i with
      | zero => rfl
      | succ i =>
          rw [splitBySizes, List.getElem?_cons_succ, List.getElem?_cons_succ, ih,
            List.take_succ_cons, List.sum_cons, List.drop_drop]

/-- Counting in steps of the size of the first node, each element of a list is found in
the piece that it falls into, as far behind the beginning as the steps leave over. -/
theorem exists_piece {l : List α} {first i : Nat}
    (hfirst : (evenSizes l.length).head? = some first) (hi : i < l.length) :
    ∃ piece, (partition l)[i / max 1 first]? = some piece ∧
      piece[i % max 1 first]? = l[i]? := by
  have hnode := div_lt_nodeCount hfirst hi
  rw [head?_evenSizes, Option.some.injEq] at hfirst
  have hfill : 0 < first :=
    hfirst ▸ groupsOf_pos (nodeCount_pos l.length) (Nat.zero_lt_of_lt hi)
  rw [Nat.max_eq_right hfill] at hnode ⊢
  have hsplit : i / first * first + i % first = i := Nat.div_add_mod' i first
  have hmod : i % first < first := Nat.mod_lt i hfill
  have hsize : (evenSizes l.length)[i / first]? =
      some (min first (l.length - i / first * first)) := by
    rw [evenSizes, List.getElem?_map, List.getElem?_range hnode, hfirst]
    rfl
  have hbefore : ((evenSizes l.length).take (i / first)).sum = i / first * first := by
    rw [sum_take_evenSizes (Nat.le_of_lt hnode), hfirst]
    omega
  refine ⟨_, by rw [partition, getElem?_splitBySizes, hsize, Option.map_some], ?_⟩
  rw [List.getElem?_take_of_lt (by omega), List.getElem?_drop, hbefore, hsplit]

end Pieces

end NwScript.Flowchart
