/-
# Sets of sibling variables

At a join point several producers may fill the same stack slot; the variables
they make are siblings. A set of them is kept as the ascending list of its
members, so equal sets are equal values and have one written form.
-/

import NwScript.Graph.Id

namespace NwScript

/-- A finite set of variables, listed in ascending order without repetition. -/
structure SiblingSet where
  toList : List VarId
  ascending : toList.Pairwise (fun a b => a.index < b.index)
  deriving DecidableEq

namespace SiblingSet

/-- The set without members. -/
def empty : SiblingSet := ⟨[], .nil⟩

/-- Put a variable into its place in an ascending list, unless it is there. -/
def insertSorted (v : VarId) : List VarId → List VarId
  | [] => [v]
  | w :: rest =>
      if v.index < w.index then v :: w :: rest
      else if v.index = w.index then w :: rest
      else w :: insertSorted v rest

/-- Insertion adds the variable and nothing else. -/
theorem mem_insertSorted {v x : VarId} {l : List VarId} :
    x ∈ insertSorted v l ↔ x = v ∨ x ∈ l := by
  induction l with
  | nil => simp [insertSorted]
  | cons w rest ih =>
      unfold insertSorted
      split
      · simp
      · split
        · next heq =>
            have hvw : v = w := by cases v; cases w; simp_all
            simp [hvw]
        · simp only [List.mem_cons, ih]
          constructor <;> rintro (h | h | h) <;> simp [h]

/-- Insertion keeps an ascending list ascending. -/
theorem insertSorted_ascending {v : VarId} {l : List VarId}
    (h : l.Pairwise (fun a b => a.index < b.index)) :
    (insertSorted v l).Pairwise (fun a b => a.index < b.index) := by
  induction l with
  | nil => simp [insertSorted]
  | cons w rest ih =>
      rw [List.pairwise_cons] at h
      unfold insertSorted
      split
      · next hlt =>
          rw [List.pairwise_cons, List.pairwise_cons]
          refine ⟨fun x hx => ?_, h⟩
          rcases List.mem_cons.mp hx with rfl | hx
          · exact hlt
          · exact UInt64.lt_trans hlt (h.1 x hx)
      · split
        · exact List.pairwise_cons.mpr h
        · next hnlt hne =>
            rw [List.pairwise_cons]
            refine ⟨fun x hx => ?_, ih h.2⟩
            rcases mem_insertSorted.mp hx with rfl | hx
            · exact UInt64.lt_of_le_of_ne (UInt64.not_lt.mp hnlt) (fun h => hne h.symm)
            · exact h.1 x hx

/-- The set with one more member. -/
def insert (s : SiblingSet) (v : VarId) : SiblingSet :=
  ⟨insertSorted v s.toList, insertSorted_ascending s.ascending⟩

/-- The set of the members of a list, in any order and with repetitions. -/
def ofList (l : List VarId) : SiblingSet := l.foldl insert empty

/-- A set holds what was put into it. -/
theorem mem_toList_insert {s : SiblingSet} {v x : VarId} :
    x ∈ (s.insert v).toList ↔ x = v ∨ x ∈ s.toList :=
  mem_insertSorted

/-- The members of the set of a list are the members of the list. -/
theorem mem_toList_ofList {l : List VarId} {x : VarId} : x ∈ (ofList l).toList ↔ x ∈ l := by
  have insertAll (s : SiblingSet) : x ∈ (l.foldl insert s).toList ↔ x ∈ l ∨ x ∈ s.toList := by
    induction l generalizing s with
    | nil => simp
    | cons v rest ih =>
        rw [List.foldl_cons, ih, mem_toList_insert, List.mem_cons]
        simp only [or_left_comm, or_assoc]
  simp [ofList, insertAll, empty]

/-- A set is known by its list. -/
theorem eq_of_toList_eq {s t : SiblingSet} (h : s.toList = t.toList) : s = t := by
  cases s
  cases t
  cases h
  rfl

/-- A variable above all others is put behind them. -/
theorem insertSorted_of_forall_lt {v : VarId} {l : List VarId}
    (h : ∀ w ∈ l, w.index < v.index) : insertSorted v l = l ++ [v] := by
  induction l with
  | nil => rfl
  | cons w rest ih =>
      have hw : w.index < v.index := h w List.mem_cons_self
      rw [insertSorted, if_neg (UInt64.lt_asymm hw), if_neg (UInt64.ne_of_lt hw).symm,
        ih fun x hx => h x (List.mem_cons_of_mem w hx), List.cons_append]

/-- The set of the members of a set is the set. -/
theorem ofList_toList (s : SiblingSet) : ofList s.toList = s := by
  refine eq_of_toList_eq ?_
  have insertAll (l : List VarId) (s : SiblingSet)
      (h : (s.toList ++ l).Pairwise fun a b => a.index < b.index) :
      (l.foldl insert s).toList = s.toList ++ l := by
    induction l generalizing s with
    | nil => simp
    | cons v rest ih =>
        have last : (s.insert v).toList = s.toList ++ [v] :=
          insertSorted_of_forall_lt fun w hw =>
            (List.pairwise_append.mp h).2.2 w hw v List.mem_cons_self
        rw [List.foldl_cons, ih (s.insert v) (by simpa [last] using h), last]
        simp
  exact insertAll s.toList empty s.ascending

end SiblingSet

end NwScript
