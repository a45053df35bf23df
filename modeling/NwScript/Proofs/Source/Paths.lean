/-
# How often a block is written

A path through the structure of a subroutine chooses, block by block, one of the
places at which a block goes on; two places that name the same block are two
choices. The recursion of the outline follows every choice and turns back only
where it would enter a block within itself, so the times that it comes to a block
are the paths to it on which no block is repeated. It writes the statements of
the block each time, and never those of another.
-/

import Mathlib
import NwScript.Proofs.Source.Owners
import NwScript.Proofs.Source.Reachability

namespace NwScript

/-- The block whose statements a piece holds, if it holds any. -/
def Piece.block? : Piece → Option BlockId
  | body id _ _ => some id
  | text _ => none

/-- The blocks whose statements are written, in the order in which they are. -/
def writtenBlocks (pieces : List Piece) : List BlockId := pieces.filterMap Piece.block?

section Written

variable {pieces : List Piece}

@[simp]
theorem writtenBlocks_nil : writtenBlocks [] = [] := rfl

@[simp]
theorem writtenBlocks_text {content : String} :
    writtenBlocks (.text content :: pieces) = writtenBlocks pieces := rfl

@[simp]
theorem writtenBlocks_body {id : BlockId} {indent : Nat} {statements : List String} :
    writtenBlocks (.body id indent statements :: pieces) = id :: writtenBlocks pieces := rfl

@[simp]
theorem writtenBlocks_append {others : List Piece} :
    writtenBlocks (pieces ++ others) = writtenBlocks pieces ++ writtenBlocks others :=
  List.filterMap_append

/-- A block is written if some piece holds its statements. -/
theorem mem_writtenBlocks_iff {id : BlockId} :
    id ∈ writtenBlocks pieces ↔ ∃ indent statements, .body id indent statements ∈ pieces := by
  rw [writtenBlocks, List.mem_filterMap]
  constructor
  · rintro ⟨piece, hpiece, hid⟩
    cases piece with
    | body other indent statements =>
        cases hid
        exact ⟨indent, statements, hpiece⟩
    | text content => cases hid
  · rintro ⟨indent, statements, hpiece⟩
    exact ⟨_, hpiece, rfl⟩

end Written

namespace Analysis

/-- A structural path from a block to another: the places at which the blocks on
the way go on, and these blocks themselves. -/
inductive Path (a : Analysis) : BlockId → List Nat → BlockId → List BlockId → Prop
  | here (id : BlockId) : Path a id [] id [id]
  | onward {id next target : BlockId} {block : Block} {place : Nat} {places : List Nat}
      {way : List BlockId} (found : a.blockAt id = .ok block)
      (edge : block.successors[place]? = some next) (rest : Path a next places target way) :
      Path a id (place :: places) target (id :: way)

/-- A structural path on which no block is repeated. -/
def SimplePath (a : Analysis) (source : BlockId) (places : List Nat) (target : BlockId) : Prop :=
  ∃ way, a.Path source places target way ∧ way.Nodup

/-- The paths on which no block is repeated and none is open already. -/
def simplePaths (a : Analysis) (opened : List BlockId) (source target : BlockId) :
    Set (List Nat) :=
  {places | ∃ way, a.Path source places target way ∧ way.Nodup ∧ ∀ b ∈ way, b ∉ opened}

/-- The paths that go on at a place counted from a first one, each to the block at
that place and along a path of that block. -/
def onwardPaths (paths : BlockId → Set (List Nat)) (first : Nat) (children : List BlockId) :
    Set (List Nat) :=
  {places | ∃ place next rest, children[place]? = some next ∧ rest ∈ paths next ∧
    places = (first + place) :: rest}

section Counting

/-- The first child adds its own paths to those of the others. -/
theorem onwardPaths_cons (paths : BlockId → Set (List Nat)) (first : Nat) (child : BlockId)
    (children : List BlockId) :
    onwardPaths paths first (child :: children) =
      List.cons first '' paths child ∪ onwardPaths paths (first + 1) children := by
  ext places
  constructor
  · rintro ⟨place, next, rest, hnext, hrest, rfl⟩
    cases place with
    | zero =>
        cases hnext
        exact .inl ⟨rest, hrest, rfl⟩
    | succ place =>
        refine .inr ⟨place, next, rest, hnext, hrest, ?_⟩
        rw [Nat.add_right_comm, Nat.add_assoc]
  · rintro (⟨rest, hrest, rfl⟩ | ⟨place, next, rest, hnext, hrest, rfl⟩)
    · exact ⟨0, child, rest, rfl, hrest, rfl⟩
    · refine ⟨place + 1, next, rest, hnext, hrest, ?_⟩
      rw [Nat.add_right_comm, Nat.add_assoc]

/-- There are as many paths onward as the children have paths, each place counting
for itself. -/
theorem encard_onwardPaths (paths : BlockId → Set (List Nat)) (first : Nat)
    (children : List BlockId) :
    (onwardPaths paths first children).encard =
      (children.map fun child => (paths child).encard).sum := by
  induction children generalizing first with
  | nil => simp [onwardPaths]
  | cons child children ih =>
      have apart : Disjoint (List.cons first '' paths child)
          (onwardPaths paths (first + 1) children) := by
        rw [Set.disjoint_left]
        rintro _ ⟨rest, _, rfl⟩ ⟨place, _, _, _, _, heq⟩
        have hplace : first = first + 1 + place := (List.cons.inj heq).1
        omega
      rw [onwardPaths_cons, Set.encard_union_eq apart, ih,
        List.cons_injective.encard_image, List.map_cons, List.sum_cons]

end Counting

section Simple

variable {a : Analysis} {opened : List BlockId} {id target : BlockId}

/-- No such path begins at a block that is open. -/
theorem simplePaths_of_mem (mem : id ∈ opened) : a.simplePaths opened id target = ∅ := by
  rw [Set.eq_empty_iff_forall_notMem]
  rintro places ⟨way, path, _, fresh⟩
  cases path with
  | here => exact fresh id List.mem_cons_self mem
  | onward => exact fresh id List.mem_cons_self mem

/-- From a block that is not open, a path stays there or goes on to a child, with
the block open from then on. -/
theorem simplePaths_of_not_mem {block : Block} (found : a.blockAt id = .ok block)
    (fresh : id ∉ opened) :
    a.simplePaths opened id target =
      {places | places = [] ∧ id = target} ∪
        onwardPaths (fun child => a.simplePaths (id :: opened) child target) 0
          block.successors := by
  ext places
  constructor
  · rintro ⟨way, path, nodup, avoids⟩
    cases path with
    | here => exact .inl ⟨rfl, rfl⟩
    | @onward _ next _ same place rest way hsame edge path =>
        rw [found] at hsame
        cases hsame
        rw [List.nodup_cons] at nodup
        refine .inr ⟨place, next, rest, edge, ⟨way, path, nodup.2, ?_⟩, ?_⟩
        · intro b hb hmem
          rcases List.mem_cons.mp hmem with rfl | hopened
          · exact nodup.1 hb
          · exact avoids b (List.mem_cons_of_mem _ hb) hopened
        · rw [Nat.zero_add]
  · rintro (⟨rfl, rfl⟩ | ⟨place, next, rest, edge, ⟨way, path, nodup, avoids⟩, rfl⟩)
    · exact ⟨[id], .here id, List.nodup_singleton id, fun b hb => List.mem_singleton.mp hb ▸ fresh⟩
    · refine ⟨id :: way, ?_, ?_, ?_⟩
      · rw [Nat.zero_add]
        exact .onward found edge path
      · exact List.nodup_cons.mpr ⟨fun hmem => avoids id hmem List.mem_cons_self, nodup⟩
      · intro b hb hmem
        rcases List.mem_cons.mp hb with rfl | hway
        · exact fresh hmem
        · exact avoids b hway (List.mem_cons_of_mem _ hmem)

/-- There is such a path exactly if the block leads to the other. -/
theorem simplePaths_nonempty_iff :
    (a.simplePaths opened id target).Nonempty ↔ a.LeadsTo opened id target := by
  constructor
  · rintro ⟨places, way, path, nodup, avoids⟩
    induction path generalizing opened with
    | here id => exact .here (avoids id List.mem_cons_self)
    | @onward id next target block place places way found edge path ih =>
        rw [List.nodup_cons] at nodup
        refine .onward (avoids id List.mem_cons_self)
          ⟨block, found, List.mem_of_getElem? edge⟩ (ih nodup.2 ?_)
        intro b hb hmem
        rcases List.mem_cons.mp hmem with rfl | hopened
        · exact nodup.1 hb
        · exact avoids b (List.mem_cons_of_mem _ hb) hopened
  · intro h
    induction h with
    | @here opened id fresh =>
        exact ⟨[], [id], .here id, List.nodup_singleton id,
          fun b hb => List.mem_singleton.mp hb ▸ fresh⟩
    | @onward opened id next target fresh continues rest ih =>
        obtain ⟨block, found, hnext⟩ := continues
        obtain ⟨place, edge⟩ := List.mem_iff_getElem?.mp hnext
        obtain ⟨places, hplaces⟩ := ih
        rw [simplePaths_of_not_mem found fresh]
        exact ⟨_, .inr ⟨place, next, places, edge, hplaces, rfl⟩⟩

end Simple

end Analysis

section Writing

variable {below : Below}

/-- Parts are written as often as the blocks among them say. -/
theorem Below.count_writeAll (target : BlockId) (times : BlockId → ℕ∞) {parts : List Pending}
    {pieces : List Piece} (h : below.writeAll parts = .ok pieces)
    (hbelow : ∀ id indent, Pending.block id indent ∈ parts → ∀ inner,
      below indent id = .ok inner → ((writtenBlocks inner).count target : ℕ∞) = times id) :
    ((writtenBlocks pieces).count target : ℕ∞) =
      ((parts.filterMap Pending.block?).map times).sum := by
  induction parts generalizing pieces with
  | nil =>
      cases h
      rfl
  | cons part rest ih =>
      have hrest := fun id indent hmem => hbelow id indent (List.mem_cons_of_mem part hmem)
      cases part with
      | text content =>
          obtain ⟨others, hothers, hpieces⟩ := bind_eq_ok_iff.mp h
          cases hpieces
          rw [writtenBlocks_text]
          exact ih hothers hrest
      | block id indent =>
          obtain ⟨inner, hinner, hnext⟩ := bind_eq_ok_iff.mp h
          obtain ⟨others, hothers, hpieces⟩ := bind_eq_ok_iff.mp hnext
          cases hpieces
          rw [writtenBlocks_append, List.count_append, Nat.cast_add, ih hothers hrest,
            hbelow id indent List.mem_cons_self inner hinner]
          rfl

end Writing

namespace Analysis

section Outlines

variable {a : Analysis} (wf : a.WellFormed) {game : Game}

include wf

/-- A block is written within the outline of another as often as there are paths to
it on which no block is repeated and none is open already. -/
theorem count_outline {opened : List BlockId} {indent : Nat} {id : BlockId} {pieces : List Piece}
    (hid : id.reference.Resolves a) (h : a.outline game opened indent id = .ok pieces)
    (target : BlockId) :
    ((writtenBlocks pieces).count target : ℕ∞) = (a.simplePaths opened id target).encard := by
  -- Along a path the number of open blocks grows, so the recursion of the outline
  -- is the one to follow; indents play no part in it.
  induction opened, indent, id using outline.induct a generalizing pieces with
  | case1 opened indent id reference found =>
      exact False.elim ((wf.blockAt hid).of_error found)
  | case2 opened indent id block found mem =>
      rw [outline_of_mem found mem] at h
      cases h
      rw [simplePaths_of_mem mem, Set.encard_empty]
      rfl
  | case3 opened indent id block found fresh ih =>
      have hblock : block.WellFormed a := (wf.blockAt hid).of_ok found
      rw [outline_of_not_mem found fresh] at h
      obtain ⟨reading, hreading, hwrite⟩ := bind_eq_ok_iff.mp h
      rw [Reading.write_eq] at hwrite
      obtain ⟨inner, hinner, rfl⟩ := map_eq_ok_iff.mp hwrite
      have hchildren : ∀ child k, Pending.block child k ∈ reading.parts indent → ∀ below,
          a.outline game (id :: opened) k child = .ok below →
          ((writtenBlocks below).count target : ℕ∞) =
            (a.simplePaths (id :: opened) child target).encard := by
        intro child k hmem below hbelow
        have hchild : child ∈ block.successors := by
          rw [← targets_readBlock hreading]
          exact Reading.mem_targets_iff.mpr ⟨k, hmem⟩
        exact ih k child (hblock.successors hchild) hbelow
      have hinnerCount := Below.count_writeAll target
        (fun child => (a.simplePaths (id :: opened) child target).encard) hinner hchildren
      have apart : Disjoint {places : List Nat | places = [] ∧ id = target}
          (onwardPaths (fun child => a.simplePaths (id :: opened) child target) 0
            block.successors) := by
        rw [Set.disjoint_left]
        rintro _ ⟨rfl, _⟩ ⟨place, next, rest, _, _, heq⟩
        cases heq
      rw [simplePaths_of_not_mem found fresh, Set.encard_union_eq apart, encard_onwardPaths,
        ← targets_readBlock hreading, ← Reading.filterMap_parts reading indent,
        ← hinnerCount]
      have hown : (writtenBlocks (.body id indent reading.statements :: inner)).count target =
          (writtenBlocks inner).count target + if id = target then 1 else 0 := by
        rw [writtenBlocks_body, List.count_cons]
        simp
      rw [hown, Nat.cast_add, add_comm]
      congr 1
      by_cases htarget : id = target
      · simp [htarget]
      · simp [htarget]

end Outlines

end Analysis

namespace Analysis

section Functions

variable {a : Analysis} {game : Game} {sub : SubRoutine} {entry : BlockId}

/-- The body of a function is the outline of its entry. -/
theorem outline_of_functionBody (first : sub.blocks.head? = some entry)
    (h : (a.functionBody game sub).result = .ok ()) :
    a.outline game [] 1 entry = .ok (a.functionBody game sub).outputs := by
  obtain ⟨rest, hblocks⟩ := List.head?_eq_some_iff.mp first
  have hbody : a.functionBody game sub = a.printFrom game entry 1 := by
    rw [functionBody, hblocks]
  rw [hbody] at h ⊢
  rw [← pieces_printFrom, Transcript.pieces_of_ok h]

/-- A function that is written writes a block as often as structural paths lead to
it from the entry on which no block is repeated. -/
theorem count_functionBody (wf : a.WellFormed) (hsub : sub.WellFormed a)
    (first : sub.blocks.head? = some entry) (h : (a.functionBody game sub).result = .ok ())
    (id : BlockId) :
    ((writtenBlocks (a.functionBody game sub).outputs).count id : ℕ∞) =
      {places | a.SimplePath entry places id}.encard := by
  have hentry := hsub.blocks entry (List.mem_of_head? first)
  rw [count_outline wf hentry (outline_of_functionBody first h)]
  congr 1
  ext places
  simp [simplePaths, SimplePath]

/-- A function that is written writes the blocks that can be reached from its entry
and no others. -/
theorem mem_writtenBlocks_functionBody_iff (wf : a.WellFormed) (hsub : sub.WellFormed a)
    (first : sub.blocks.head? = some entry) (h : (a.functionBody game sub).result = .ok ())
    {id : BlockId} :
    id ∈ writtenBlocks (a.functionBody game sub).outputs ↔
      Relation.ReflTransGen a.Continues entry id := by
  have hentry := hsub.blocks entry (List.mem_of_head? first)
  have hcount := count_outline wf hentry (outline_of_functionBody first h) id
  rw [← leadsTo_nil_iff, ← simplePaths_nonempty_iff, ← Set.encard_pos, ← hcount,
    ← List.count_pos_iff]
  exact Nat.cast_pos'.symm

/-- The pieces of a function that is written belong to blocks. -/
theorem piecesOwned_functionBody (h : (a.functionBody game sub).result = .ok ()) :
    a.PiecesOwned game (a.functionBody game sub).outputs := by
  cases hblocks : sub.blocks with
  | nil =>
      rw [functionBody, hblocks]
      exact ⟨fun _ _ _ hmem => absurd hmem List.not_mem_nil,
        fun _ hmem => absurd hmem List.not_mem_nil⟩
  | cons entry rest =>
      exact piecesOwned_outline (outline_of_functionBody (by rw [hblocks]; rfl) h)

/-- The source text holds the function of a subroutine, with its pieces one after the other. In
it a block is written as often as structural paths lead to it from the entry on which no block is
repeated: at least once if it can be reached at all, and never otherwise. Each time it is all of
its own statements, and what stands between statements comes from the blocks that are written. -/
theorem count_writtenBlocks (a : Analysis) (game : Game) (accepted : a.check = .ok ())
    (printed : ((a.printSource game).deliver none).result = .ok ()) (sub : SubRoutine)
    (listed : sub ∈ a.subRoutines) (entry : BlockId) (first : sub.blocks.head? = some entry)
    (id : BlockId) :
    (∃ text, (a.printSource game).text = .ok text ∧ a.HoldsFunction game sub text) ∧
      ((writtenBlocks (a.functionBody game sub).outputs).count id : ℕ∞) =
        {places | a.SimplePath entry places id}.encard ∧
      (id ∈ writtenBlocks (a.functionBody game sub).outputs ↔
        Relation.ReflTransGen a.Continues entry id) ∧
      (∀ indent statements, .body id indent statements ∈ (a.functionBody game sub).outputs →
        ∃ block, a.blockAt id = .ok block ∧
          (a.blockStatements game block).result = .ok statements ∧
          a.HasStatements game block statements) ∧
      a.PiecesOwned game (a.functionBody game sub).outputs := by
  have wf := check_eq_ok_iff_wellFormed.mp accepted
  have hsub := wf.subRoutines sub listed
  rw [Transcript.result_deliver] at printed
  have hbody := result_functionBody_of_printSource printed listed
  have howned := piecesOwned_functionBody hbody
  refine ⟨?text, count_functionBody wf hsub first hbody id,
    mem_writtenBlocks_functionBody_iff wf hsub first hbody, ?statements, howned⟩
  case text =>
    obtain ⟨text, htext, hfunctions⟩ := exists_text_of_result printed
    exact ⟨text, htext, hfunctions sub listed⟩
  case statements =>
    intro indent statements hpiece
    obtain ⟨block, reading, found, hreading, rfl, _⟩ := howned.complete id indent statements hpiece
    exact ⟨block, found, result_blockStatements_of_readBlock hreading,
      hasStatements_of_readBlock hreading⟩

end Functions

/-- A script whose entry holds two conditionals that go on with the same block; the
first one also goes back to the entry. -/
def sharedJoin : Analysis where
  instructions := #[
    { address := 13, opcode := .rsAdd, operandType := .int, operands := [⟨0⟩]
      block := some ⟨0⟩ },
    { address := 15, opcode := .rsAdd, operandType := .int, operands := [⟨1⟩]
      block := some ⟨1⟩ }]
  blocks := #[
    { address := 13, instructions := [⟨0⟩], subRoutine := ⟨0⟩
      controls := [
        { kind := .ifCond, ifTrue := some ⟨0⟩, ifNext := some ⟨1⟩ },
        { kind := .ifCond, ifTrue := some ⟨1⟩, ifNext := some ⟨1⟩ }] },
    { address := 15, instructions := [⟨1⟩], subRoutine := ⟨0⟩ }]
  subRoutines := #[{ address := 13, blocks := [⟨0⟩, ⟨1⟩] }]
  vars := #[{ id := 1, type := .int }, { id := 2, type := .int }]
  hasStackAnalysis := true
  hasControlFlow := true

/-- The block at which the conditionals meet is written three times, for the three
places at which the entry goes on with it. -/
theorem count_writtenBlocks_sharedJoin :
    sharedJoin.check = .ok () ∧ ((sharedJoin.printSource {}).deliver none).result = .ok () ∧
      (∃ text, (sharedJoin.printSource {}).text = .ok text ∧
        sharedJoin.HoldsFunction {} sharedJoin.subRoutines[0] text) ∧
      textOf (sharedJoin.functionBody {} sharedJoin.subRoutines[0]).outputs =
        "\tint var_1 = 0;\n\tif (var_1) \x7b\n\t\x7d\n\tint var_2 = 0;\n\tif (var_1) \x7b\n" ++
          "\t\tint var_2 = 0;\n\t\x7d\n\tint var_2 = 0;\n" ∧
      sharedJoin.HasStatements {} sharedJoin.blocks[1] ["int var_2 = 0;"] ∧
      {places | sharedJoin.SimplePath ⟨0⟩ places ⟨1⟩}.encard = 3 := by
  have accepted : sharedJoin.check = .ok () := rfl
  have printed : ((sharedJoin.printSource {}).deliver none).result = .ok () := by cbv
  have hpieces : (sharedJoin.functionBody {} sharedJoin.subRoutines[0]).outputs = [
      .body ⟨0⟩ 1 ["int var_1 = 0;"],
      .text "\tif (var_1) \x7b\n", .text "\t\x7d", .text "\n", .body ⟨1⟩ 1 ["int var_2 = 0;"],
      .text "\tif (var_1) \x7b\n", .body ⟨1⟩ 2 ["int var_2 = 0;"], .text "\t\x7d", .text "\n",
      .body ⟨1⟩ 1 ["int var_2 = 0;"]] := by cbv
  obtain ⟨htext, hcount, _, hstatements, _⟩ := count_writtenBlocks sharedJoin {} accepted printed
    sharedJoin.subRoutines[0] (Array.getElem_mem _) ⟨0⟩ rfl ⟨1⟩
  rw [hpieces] at hcount hstatements ⊢
  obtain ⟨block, found, _, hown⟩ := hstatements 2 ["int var_2 = 0;"] (by simp)
  cases found
  exact ⟨accepted, printed, htext, by cbv, hown, hcount.symm⟩

end Analysis

end NwScript
