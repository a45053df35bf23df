/-
# Transcripts

Writing a script is a computation that puts out pieces of text, reports events
and may stop early. A `Transcript` is the record of one such computation: what
it did, in order, and how it ended. It says nothing about where the output goes;
`Sink` does, so that one transcript answers for every sink.
-/

import NwScript.Event

namespace NwScript

/-- One thing a computation does that can be seen from outside. -/
inductive Action (ω : Type)
  /-- It puts out a piece of output. -/
  | write (output : ω)
  /-- It reports an event. -/
  | log (event : Event)
  deriving DecidableEq

/-- The end of a computation: a value, or why it stopped. -/
abbrev Outcome := Except Failure

/-- What a computation did and how it ended. -/
structure Transcript (ω α : Type) where
  actions : List (Action ω)
  result : Outcome α

namespace Transcript

variable {ω ω' α β : Type}

/-- Go on with a second computation, if the first came to a value. -/
def andThen (first : Transcript ω α) (next : α → Transcript ω β) : Transcript ω β :=
  match first.result with
  | .error failure => ⟨first.actions, .error failure⟩
  | .ok value => ⟨first.actions ++ (next value).actions, (next value).result⟩

instance : Monad (Transcript ω) where
  pure value := ⟨[], .ok value⟩
  bind := andThen

/-- Computations compose like the sequences of their actions: going on with
nothing adds nothing, and it does not matter which part is composed first. -/
instance : LawfulMonad (Transcript ω) :=
  LawfulMonad.mk' _
    (fun t => by rcases t with ⟨actions, _ | value⟩ <;> simp [Functor.map, andThen])
    (fun value next => by simp [bind, pure, andThen])
    (fun t next after => by
      rcases t with ⟨actions, _ | value⟩
      · rfl
      · simp only [bind, andThen]
        rcases next value with ⟨more, _ | _⟩ <;> simp)

/-- Put out one piece. -/
def write (output : ω) : Transcript ω Unit := ⟨[.write output], .ok ()⟩

/-- Report one event. -/
def log (event : Event) : Transcript ω Unit := ⟨[.log event], .ok ()⟩

/-- End with a given outcome, without doing anything. -/
def ofOutcome (outcome : Outcome α) : Transcript ω α := ⟨[], outcome⟩

/-- Stop with an error. -/
def stop (error : Error) : Transcript ω α := ofOutcome (.error (.error error))

/-- The pieces that were put out, in order. -/
def outputs (t : Transcript ω α) : List ω :=
  t.actions.filterMap fun
    | .write output => some output
    | .log _ => none

/-- The events that were reported, in order. -/
def events (t : Transcript ω α) : List Event :=
  t.actions.filterMap fun
    | .write _ => none
    | .log event => some event

/-- The same computation with its pieces of output put differently. -/
def mapOutputs (f : ω → ω') (t : Transcript ω α) : Transcript ω' α :=
  ⟨t.actions.map fun
    | .write output => .write (f output)
    | .log event => .log event, t.result⟩

/-- Hold all text back until the computation has come to its end, and put it out
as one piece then; a computation that stops early puts out nothing. -/
def buffered (t : Transcript String α) : Transcript String α :=
  let reports := t.events.map Action.log
  match t.result with
  | .error failure => ⟨reports, .error failure⟩
  | .ok value => ⟨reports ++ [.write (String.join t.outputs)], .ok value⟩

/-- The whole text of a computation, or why there is none. -/
def text (t : Transcript String Unit) : Outcome String :=
  t.result.map fun _ => String.join t.outputs

end Transcript

/-- What an outcome is to references: the first that leads nowhere ends it. -/
def Outcome.ofResolved {α : Type} (resolved : Resolved α) : Outcome α :=
  resolved.mapError .unresolved

/-- What an outcome is to errors: the error ends it. -/
def Outcome.ofChecked {α : Type} (checked : Except Error α) : Outcome α :=
  checked.mapError .error

instance : MonadLift Resolved Outcome where
  monadLift := Outcome.ofResolved

instance {ω : Type} : MonadLift Outcome (Transcript ω) where
  monadLift := Transcript.ofOutcome

end NwScript
