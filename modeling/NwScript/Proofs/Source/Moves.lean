/-
# Moves of a walk

What one step of a walk can do, said case by case: it puts out a text, closes a
block, skips a block that is open, or enters one that is not; and it ends where
nothing is left, where a block leads nowhere or where a block is incomplete. An
invariant of walks is checked against these moves, and a run inherits it.
-/

import NwScript.Source.Walk

namespace NwScript.Walk

variable (a : Analysis) (game : Game)

/-- The ways in which a walk goes on. -/
inductive Moves : Walk → Walk → Prop
  | text (content : String) (rest : List Step) (opened : List BlockId)
      (done : List (Action Piece)) :
      Moves ⟨.pending (.text content) :: rest, opened, done⟩
        ⟨rest, opened, .write (.text content) :: done⟩
  | close (id : BlockId) (rest : List Step) (opened : List BlockId)
      (done : List (Action Piece)) :
      Moves ⟨.close id :: rest, opened, done⟩ ⟨rest, opened.erase id, done⟩
  | skip {id : BlockId} {indent : Nat} {block : Block} (rest : List Step)
      {opened : List BlockId} (done : List (Action Piece))
      (found : a.blockAt id = .ok block) (mem : id ∈ opened) :
      Moves ⟨.pending (.block id indent) :: rest, opened, done⟩
        ⟨rest, opened, .log (.alreadyOpen block.address) :: done⟩
  | enter {id : BlockId} {indent : Nat} {block : Block} {parts : List Pending}
      (rest : List Step) {opened : List BlockId} (done : List (Action Piece))
      (found : a.blockAt id = .ok block) (fresh : id ∉ opened)
      (visited : (a.visit game id indent block).result = .ok parts) :
      Moves ⟨.pending (.block id indent) :: rest, opened, done⟩
        ⟨parts.map .pending ++ .close id :: rest, id :: opened,
          (a.visit game id indent block).actions.reverse ++ done⟩

/-- The ways in which a walk ends. -/
inductive Stops : Walk → Outcome Unit → List (Action Piece) → Prop
  | finished (opened : List BlockId) (done : List (Action Piece)) :
      Stops ⟨[], opened, done⟩ (.ok ()) done
  | lost {id : BlockId} {indent : Nat} {reference : Reference} (rest : List Step)
      (opened : List BlockId) (done : List (Action Piece))
      (found : a.blockAt id = .error reference) :
      Stops ⟨.pending (.block id indent) :: rest, opened, done⟩
        (.error (.unresolved reference)) done
  | incomplete {id : BlockId} {indent : Nat} {block : Block} {failure : Failure}
      (rest : List Step) {opened : List BlockId} (done : List (Action Piece))
      (found : a.blockAt id = .ok block) (fresh : id ∉ opened)
      (visited : (a.visit game id indent block).result = .error failure) :
      Stops ⟨.pending (.block id indent) :: rest, opened, done⟩ (.error failure)
        ((a.visit game id indent block).actions.reverse ++ done)

variable {a game}

/-- A step that goes on is a move. -/
theorem moves_of_running {walk later : Walk} (h : walk.step a game = .running later) :
    Moves a game walk later := by
  obtain ⟨work, opened, done⟩ := walk
  unfold step at h
  split at h
  · cases h
  · next content rest hwork =>
      cases hwork
      cases h
      exact .text content rest opened done
  · next id rest hwork =>
      cases hwork
      cases h
      exact .close id rest opened done
  · next id indent rest hwork =>
      cases hwork
      split at h
      · cases h
      · next block found =>
          split at h
          · next mem =>
              cases h
              exact .skip rest done found mem
          · next fresh =>
              dsimp only at h
              split at h
              · cases h
              · next parts visited =>
                  cases h
                  exact .enter rest done found fresh visited

/-- A step that ends a walk stops it. -/
theorem stops_of_ended {walk : Walk} {result : Outcome Unit} {done : List (Action Piece)}
    (h : walk.step a game = .ended result done) : Stops a game walk result done := by
  obtain ⟨work, opened, before⟩ := walk
  unfold step at h
  split at h
  · next hwork =>
      cases hwork
      cases h
      exact .finished opened before
  · cases h
  · cases h
  · next id indent rest hwork =>
      cases hwork
      split at h
      · next reference found =>
          cases h
          exact .lost rest opened before found
      · next block found =>
          split at h
          · cases h
          · next fresh =>
              dsimp only at h
              split at h
              · next failure visited =>
                  cases h
                  exact .incomplete rest before found fresh visited
              · cases h

/-- A step that ends a walk ends its run. -/
theorem run_of_ended {walk : Walk} {result : Outcome Unit} {done : List (Action Piece)}
    (h : walk.step a game = .ended result done) : walk.run a game = ⟨done.reverse, result⟩ := by
  rw [run]
  split
  · next h' =>
      rw [h] at h'
      cases h'
      rfl
  · next h' =>
      rw [h] at h'
      cases h'

/-- A step that goes on leaves the rest of the run. -/
theorem run_of_running {walk later : Walk} (h : walk.step a game = .running later) :
    walk.run a game = later.run a game := by
  rw [run]
  split
  · next h' =>
      rw [h] at h'
      cases h'
  · next h' =>
      rw [h] at h'
      cases h'
      rfl

/-- What every move keeps holds until a walk stops, and what follows from it
there holds of the whole run. -/
theorem run_induction (keeps : Walk → Prop) (ends : Transcript Piece Unit → Prop)
    (moves : ∀ walk later, keeps walk → Moves a game walk later → keeps later)
    (stops : ∀ walk result done, keeps walk → Stops a game walk result done →
      ends ⟨done.reverse, result⟩)
    (walk : Walk) (start : keeps walk) : ends (walk.run a game) := by
  induction walk using Walk.run.induct a game with
  | case1 walk result done h =>
      rw [run_of_ended h]
      exact stops walk result done start (stops_of_ended h)
  | case2 walk later h ih =>
      rw [run_of_running h]
      exact ih (moves walk later start (moves_of_running h))

end NwScript.Walk
