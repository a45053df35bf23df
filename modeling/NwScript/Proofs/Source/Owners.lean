/-
# Whose pieces are written

Each piece of a function is that of a block: its statements, all of them and no others, or one
of the texts that it leaves to be written around the blocks that it names. So a block whose
statements are written has its calls, returns and conditionals written with them, and no text
between the statements comes from anywhere else.
-/

import NwScript.Proofs.Source.Outline

namespace NwScript

namespace Analysis

/-- What an instruction is written as: its statement, or nothing if its opcode has no form. -/
def WrittenAs (a : Analysis) (game : Game) (id : InstrId) (statement : Option String) : Prop :=
  ∃ instr, a.instructionAt id = .ok instr ∧
    match instr.opcode.statementForm? with
    | none => statement = none
    | some form => ∃ content, a.statementText game instr form = .ok content ∧
        statement = some content

/-- The statements of a block are those of its instructions, in their order. -/
def HasStatements (a : Analysis) (game : Game) (block : Block) (statements : List String) : Prop :=
  ∃ written, List.Forall₂ (a.WrittenAs game) block.instructions written ∧
    statements = written.filterMap fun statement => statement

/-- All pieces belong to blocks: statements are those of a block, with all texts that it leaves
to be written, and a text is among those of a block whose statements are written. -/
structure PiecesOwned (a : Analysis) (game : Game) (pieces : List Piece) : Prop where
  complete : ∀ id indent statements, .body id indent statements ∈ pieces →
    ∃ block reading, a.blockAt id = .ok block ∧ a.readBlock game block = .ok reading ∧
      statements = reading.statements ∧
      ∀ content, Pending.text content ∈ reading.parts indent → .text content ∈ pieces
  sound : ∀ content, .text content ∈ pieces →
    ∃ id indent statements block reading, .body id indent statements ∈ pieces ∧
      a.blockAt id = .ok block ∧ a.readBlock game block = .ok reading ∧
      Pending.text content ∈ reading.parts indent

variable {a : Analysis} {game : Game}

/-- An instruction is read as what it is written as. -/
theorem readStatement_eq_ok_iff {id : InstrId} {statement : Option String} :
    a.readStatement game id = .ok statement ↔ a.WrittenAs game id statement := by
  rw [readStatement, bind_eq_ok_iff, WrittenAs]
  refine exists_congr fun instr => ?_
  rw [Outcome.ofResolved_eq_ok_iff]
  refine and_congr_right fun _ => ?_
  cases instr.opcode.statementForm? with
  | none =>
      show Except.ok none = Except.ok statement ↔ statement = none
      rw [Except.ok.injEq]
      exact eq_comm
  | some form =>
      dsimp only
      rw [map_eq_ok_iff]
      exact exists_congr fun content => and_congr_right fun _ => eq_comm

/-- A block is read with its statements. -/
theorem hasStatements_of_readBlock {block : Block} {reading : Reading}
    (h : a.readBlock game block = .ok reading) : a.HasStatements game block reading.statements := by
  obtain ⟨written, _, _, hwritten, _, _, rfl⟩ := readBlock_eq_ok_iff.mp h
  exact ⟨written, (forall₂_of_mapM_eq_ok hwritten).imp fun _ _ => readStatement_eq_ok_iff.mp, rfl⟩

/-- They are what a visit of the block makes up. -/
theorem result_blockStatements_of_readBlock {block : Block} {reading : Reading}
    (h : a.readBlock game block = .ok reading) :
    (a.blockStatements game block).result = .ok reading.statements := by
  obtain ⟨written, _, _, hwritten, _, _, rfl⟩ := readBlock_eq_ok_iff.mp h
  rw [result_blockStatements, hwritten]
  rfl

/-- The pieces of an outline belong to blocks. -/
theorem piecesOwned_outline {opened : List BlockId} {indent : Nat} {id : BlockId}
    {pieces : List Piece} (h : a.outline game opened indent id = .ok pieces) :
    a.PiecesOwned game pieces := by
  induction opened, indent, id using outline.induct a generalizing pieces with
  | case1 opened indent id reference found =>
      rw [outline_of_error found] at h
      cases h
  | case2 opened indent id block found mem =>
      rw [outline_of_mem found mem] at h
      cases h
      exact {
        complete := fun _ _ _ hmem => absurd hmem List.not_mem_nil
        sound := fun _ hmem => absurd hmem List.not_mem_nil }
  | case3 opened indent id block found fresh ih =>
      rw [outline_of_not_mem found fresh] at h
      obtain ⟨reading, hreading, hwrite⟩ := bind_eq_ok_iff.mp h
      rw [Reading.write_eq] at hwrite
      obtain ⟨inner, hinner, rfl⟩ := map_eq_ok_iff.mp hwrite
      -- A piece behind the statements is a text of the block, or it stands below a child.
      have hpiece (piece : Piece) : piece ∈ inner ↔ _ := Below.mem_writeAll_iff hinner
      refine { complete := ?_, sound := ?_ }
      · intro child k statements hbody
        obtain heq | hbody := List.mem_cons.mp hbody
        · cases heq
          refine ⟨block, reading, found, hreading, rfl, fun content hcontent => ?_⟩
          exact List.mem_cons_of_mem _ ((hpiece _).mpr (.inl ⟨content, rfl, hcontent⟩))
        · obtain ⟨_, heq, _⟩ | ⟨next, j, below, hnext, hbelow, hbody⟩ := (hpiece _).mp hbody
          · cases heq
          · obtain ⟨block, reading, found, hreading, hown, htexts⟩ :=
              (ih j next hbelow).complete child k statements hbody
            refine ⟨block, reading, found, hreading, hown, fun content hcontent => ?_⟩
            exact List.mem_cons_of_mem _ ((hpiece _).mpr
              (.inr ⟨next, j, below, hnext, hbelow, htexts content hcontent⟩))
      · intro content htext
        obtain heq | htext := List.mem_cons.mp htext
        · cases heq
        · obtain ⟨_, heq, hpart⟩ | ⟨next, j, below, hnext, hbelow, htext⟩ := (hpiece _).mp htext
          · cases heq
            exact ⟨id, indent, _, block, reading, List.mem_cons_self, found, hreading, hpart⟩
          · obtain ⟨child, k, statements, block, reading, hbody, hrest⟩ :=
              (ih j next hbelow).sound content htext
            refine ⟨child, k, statements, block, reading, ?_, hrest⟩
            exact List.mem_cons_of_mem _ ((hpiece _).mpr
              (.inr ⟨next, j, below, hnext, hbelow, hbody⟩))

end Analysis

end NwScript
