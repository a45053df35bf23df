/-
# The outline of a subroutine

Written by plain recursion, a block is its own statements followed by whatever
its annotations nest in it or continue it with, each of them written with one
more block open. `Analysis.outline` is that recursion; it knows neither a stack
nor a marker that closes a block. Before anything below a block is looked at,
the block is read as a whole, so the first thing missing in it ends the text.

The walk keeps what is still to be written on a stack. `Walk.forecast` says what
a state of the walk will have written in the end, if each block on the stack is
written by recursion with those blocks open that are open when its turn comes.
No step changes the forecast, so the text of a walk is the text of the outline.
-/

import NwScript.Proofs.Source.Moves
import NwScript.Proofs.Source.Reading
import NwScript.Proofs.Source.Text

namespace NwScript

section Writing

/-- How a block is written at an indent. -/
abbrev Below := Nat → BlockId → Outcome (List Piece)

/-- A line of source text at an indent. -/
def linePiece (indent : Nat) (line : String) : Piece :=
  .text (Text.tabs indent ++ line ++ "\n")

/-- The text of a block that may be missing. -/
def Below.optional (below : Below) (indent : Nat) : Option BlockId → Outcome (List Piece)
  | none => pure []
  | some id => below indent id

/-- The brace that ends a branch. -/
def closePiece (indent : Nat) : Piece := .text (Text.tabs indent ++ "\x7d")

/-- The second branch of a conditional; there is none without a block for it. -/
def Below.otherwise (below : Below) (indent : Nat) : Option BlockId → Outcome (List Piece)
  | none => pure []
  | some id => do
      let inner ← below (indent + 1) id
      return [.text " else \x7b\n"] ++ inner ++ [closePiece indent]

/-- A return is one line. A conditional has its branches one step further in,
and what follows both of them behind. -/
def Clause.write (below : Below) (indent : Nat) : Clause → Outcome (List Piece)
  | .returns statement => pure [linePiece indent statement]
  | .conditional condition whenTrue whenFalse next => do
      let first ← below.optional (indent + 1) whenTrue
      let second ← below.otherwise indent whenFalse
      let rest ← below.optional indent next
      return [.text (Text.tabs indent ++ "if (" ++ condition ++ ") \x7b\n")] ++ first ++
        [closePiece indent] ++ second ++ [.text "\n"] ++ rest

/-- A block is its statements, its call and the block after the call, and then
its control structures, one after the other. -/
def Reading.write (reading : Reading) (below : Below) (indent : Nat) (id : BlockId) :
    Outcome (List Piece) := do
  let tail ← below.optional indent reading.tail
  let clauses ← reading.clauses.mapM (Clause.write below indent)
  return [.body id indent reading.statements] ++ (reading.call.map (linePiece indent)).toList ++
    tail ++ clauses.flatten

end Writing

/-- The text of a block and of everything below it, while some blocks are open:
nothing if the block is among them, else what the block says, with the block
itself open for all that it names. -/
def Analysis.outline (a : Analysis) (game : Game) (opened : List BlockId) (indent : Nat)
    (id : BlockId) : Outcome (List Piece) :=
  match _found : a.blockAt id with
  | .error reference => .error (.unresolved reference)
  | .ok block =>
      if _fresh : id ∈ opened then pure []
      else do
        let reading ← a.readBlock game block
        reading.write (fun indent child => a.outline game (id :: opened) indent child) indent id
termination_by Walk.closedBlocks a opened
decreasing_by
  rw [Walk.closedBlocks_open (Walk.inside_of_blockAt _found) _fresh]
  exact Nat.lt_succ_self _

section Parts

variable {below : Below}

/-- The text of things still to be written, each block in one go. -/
def Below.writeAll (below : Below) : List Pending → Outcome (List Piece)
  | [] => pure []
  | .text content :: rest => do return .text content :: (← below.writeAll rest)
  | .block id indent :: rest => do return (← below indent id) ++ (← below.writeAll rest)

/-- What stands first is written first. -/
theorem Below.writeAll_append (parts rest : List Pending) :
    below.writeAll (parts ++ rest) =
      (do return (← below.writeAll parts) ++ (← below.writeAll rest)) := by
  induction parts with
  | nil => simp [Below.writeAll]
  | cons part parts ih =>
      cases part with
      | text content => simp [Below.writeAll, ih]
      | block id indent =>
          simp only [List.cons_append, Below.writeAll, ih, bind_assoc, pure_bind,
            List.append_assoc]

/-- What is written are the texts and what the blocks among the parts are written as. -/
theorem Below.mem_writeAll_iff {parts : List Pending} {pieces : List Piece}
    (h : below.writeAll parts = .ok pieces) {piece : Piece} :
    piece ∈ pieces ↔ (∃ content, piece = .text content ∧ Pending.text content ∈ parts) ∨
      ∃ id indent inner, Pending.block id indent ∈ parts ∧ below indent id = .ok inner ∧
        piece ∈ inner := by
  induction parts generalizing pieces with
  | nil =>
      cases h
      simp
  | cons part rest ih =>
      cases part with
      | text content =>
          obtain ⟨others, hothers, hpieces⟩ := bind_eq_ok_iff.mp h
          cases hpieces
          rw [List.mem_cons, ih hothers]
          simp only [List.mem_cons, Pending.text.injEq, reduceCtorEq, false_or]
          grind
      | block id indent =>
          obtain ⟨inner, hinner, hnext⟩ := bind_eq_ok_iff.mp h
          obtain ⟨others, hothers, hpieces⟩ := bind_eq_ok_iff.mp hnext
          cases hpieces
          rw [List.mem_append, ih hothers]
          simp only [List.mem_cons, reduceCtorEq, false_or]
          grind

/-- A control structure is written as its parts. -/
theorem Clause.write_eq (clause : Clause) (indent : Nat) :
    clause.write below indent = below.writeAll (clause.parts indent) := by
  cases clause with
  | returns statement => rfl
  | conditional condition whenTrue whenFalse next =>
      cases whenTrue <;> cases whenFalse <;> cases next <;>
        simp [Clause.write, Clause.parts, Below.writeAll, Below.optional, Below.otherwise,
          closePiece]

/-- A block is written as its statements and its parts. -/
theorem Reading.write_eq (reading : Reading) (indent : Nat) (id : BlockId) :
    reading.write below indent id =
      (.body id indent reading.statements :: ·) <$> below.writeAll (reading.parts indent) := by
  have hclauses (clauses : List Clause) :
      List.flatten <$> clauses.mapM (Clause.write below indent) =
        below.writeAll (clauses.flatMap (Clause.parts indent)) := by
    induction clauses with
    | nil => rfl
    | cons clause rest ih =>
        rw [List.flatMap_cons, Below.writeAll_append, ← Clause.write_eq, ← ih]
        simp
  unfold Reading.write Reading.parts
  rw [Below.writeAll_append, ← hclauses]
  cases reading.call <;> cases reading.tail <;>
    simp [Below.writeAll, Below.optional, linePiece]

end Parts

section Walks

variable {a : Analysis} {game : Game}

/-- A block that leads nowhere ends the outline. -/
theorem Analysis.outline_of_error {opened : List BlockId} {indent : Nat} {id : BlockId}
    {reference : Reference} (h : a.blockAt id = .error reference) :
    a.outline game opened indent id = .error (.unresolved reference) := by
  rw [outline]
  split
  · next found =>
      rw [h] at found
      cases found
      rfl
  · next found =>
      rw [h] at found
      cases found

/-- Within itself a block is skipped. -/
theorem Analysis.outline_of_mem {opened : List BlockId} {indent : Nat} {id : BlockId}
    {block : Block} (h : a.blockAt id = .ok block) (mem : id ∈ opened) :
    a.outline game opened indent id = .ok [] := by
  rw [outline]
  split
  · next found =>
      rw [h] at found
      cases found
  · rw [dif_pos mem]
    rfl

/-- A block that is not open is read, and written with itself open. -/
theorem Analysis.outline_of_not_mem {opened : List BlockId} {indent : Nat} {id : BlockId}
    {block : Block} (h : a.blockAt id = .ok block) (fresh : id ∉ opened) :
    a.outline game opened indent id = (do
      let reading ← a.readBlock game block
      reading.write (a.outline game (id :: opened)) indent id) := by
  rw [outline]
  split
  · next found =>
      rw [h] at found
      cases found
  · next found =>
      rw [h] at found
      cases found
      rw [dif_neg fresh]

namespace Walk

variable (a game)

/-- The text of a stack of things still to be done, while some blocks are open:
a block is written by recursion, and a marker closes its block for the rest. -/
def remaining : List Step → List BlockId → Outcome (List Piece)
  | [], _ => pure []
  | .close id :: rest, opened => remaining rest (opened.erase id)
  | .pending (.text content) :: rest, opened => do
      return .text content :: (← remaining rest opened)
  | .pending (.block id indent) :: rest, opened => do
      return (← a.outline game opened indent id) ++ (← remaining rest opened)

/-- The pieces among some actions. -/
def written (actions : List (Action Piece)) : List Piece :=
  (⟨actions, .ok ()⟩ : Transcript Piece Unit).outputs

/-- What a walk will have written when it ends, or why it will stop. -/
def forecast (walk : Walk) : Outcome (List Piece) := do
  return written walk.done.reverse ++ (← remaining a game walk.work walk.opened)

variable {a game}

/-- Parts that are put onto the stack are written before the rest, and open no
block that stays open. -/
theorem remaining_parts (parts : List Pending) (rest : List Step) (opened : List BlockId) :
    remaining a game (parts.map .pending ++ rest) opened = (do
      let first ← Below.writeAll (a.outline game opened) parts
      return first ++ (← remaining a game rest opened)) := by
  induction parts with
  | nil => simp [Below.writeAll]
  | cons part parts ih =>
      cases part with
      | text content =>
          simp only [List.map_cons, List.cons_append, remaining, Below.writeAll, ih, bind_assoc,
            pure_bind]
      | block id indent =>
          simp only [List.map_cons, List.cons_append, remaining, Below.writeAll, ih, bind_assoc,
            pure_bind, List.append_assoc]

/-- What was written is not taken back: new actions come behind it. -/
theorem written_append (before after : List (Action Piece)) :
    written (before ++ after) = written before ++ written after :=
  List.filterMap_append

/-- No move changes what will be written. -/
theorem forecast_of_moves {walk later : Walk} (h : Moves a game walk later) :
    later.forecast a game = walk.forecast a game := by
  cases h with
  | text content rest opened done =>
      simp only [forecast, remaining, List.reverse_cons, written_append, bind_assoc, pure_bind,
        List.append_assoc]
      rfl
  | close id rest opened done => rfl
  | skip rest done found mem =>
      simp only [forecast, remaining, List.reverse_cons, written_append,
        Analysis.outline_of_mem found mem, ok_bind, bind_assoc, pure_bind, List.append_assoc]
      rfl
  | @enter id indent block parts rest opened done found fresh visited =>
      -- The marker behind the parts takes the block out again, so the rest is
      -- written with the blocks open that were open before.
      rw [Analysis.result_visit] at visited
      obtain ⟨reading, hreading, rfl⟩ := map_eq_ok_iff.mp visited
      have houtputs : written (a.visit game id indent block).actions =
          [.body id indent reading.statements] := Analysis.outputs_visit hreading
      simp only [forecast, remaining, remaining_parts, List.reverse_append, List.reverse_reverse,
        written_append, houtputs, Analysis.outline_of_not_mem found fresh, hreading,
        Reading.write_eq, ok_bind, List.erase_cons_head, map_eq_pure_bind, bind_assoc, pure_bind,
        List.append_assoc]
      rfl

/-- Where a walk stops, it stops with what was to be written. -/
theorem forecast_of_stops {walk : Walk} {result : Outcome Unit} {done : List (Action Piece)}
    (h : Stops a game walk result done) :
    walk.forecast a game = result.map fun _ => written done.reverse := by
  cases h with
  | finished opened done =>
      simp only [forecast, remaining, pure_bind, List.append_nil]
      rfl
  | lost rest opened done found =>
      simp only [forecast, remaining, Analysis.outline_of_error found, error_bind]
      rfl
  | incomplete rest done found fresh visited =>
      rw [Analysis.result_visit] at visited
      have hreading := map_eq_error_iff.mp visited
      simp only [forecast, remaining, Analysis.outline_of_not_mem found fresh, hreading,
        error_bind]
      rfl

/-- A walk writes what is forecast of it. -/
theorem pieces_run (walk : Walk) : (walk.run a game).pieces = walk.forecast a game := by
  apply run_induction (fun later => later.forecast a game = walk.forecast a game)
    fun t => t.pieces = walk.forecast a game
  · intro current later hkeeps hmoves
    rw [forecast_of_moves hmoves, hkeeps]
  · intro current result done hkeeps hstops
    rw [← hkeeps, forecast_of_stops hstops]
    rfl
  · rfl

end Walk

/-- What a walk from a block puts out is the outline of the block. -/
theorem Analysis.pieces_printFrom (entry : BlockId) (indent : Nat) :
    (a.printFrom game entry indent).pieces = a.outline game [] indent entry := by
  rw [printFrom, Walk.pieces_run]
  simp [Walk.forecast, Walk.remaining, Walk.written, Transcript.outputs]

/-- A walk from a block puts out the pieces of the recursion, or stops as it does: a stack,
markers that close blocks and a list of those that are open come to the same as blocks nested in
blocks. So its text is theirs, with each statement on a line at the indent of its block. -/
theorem Analysis.text_printFrom (a : Analysis) (game : Game) (entry : BlockId) (indent : Nat) :
    (a.printFrom game entry indent).pieces = a.outline game [] indent entry ∧
      ((a.printFrom game entry indent).mapOutputs Piece.output).text =
        (a.outline game [] indent entry).map textOf := by
  refine ⟨pieces_printFrom entry indent, ?_⟩
  rw [Transcript.text_mapOutputs, pieces_printFrom]

end Walks

end NwScript
