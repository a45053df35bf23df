/-
# Sinks

A sink takes the text of a transcript as bytes, until it has no room left. A
piece that fits only in part is cut; a piece that finds no room at all, and is
not empty, makes the sink fail, and nothing that the computation would have done
after that happens.
-/

import NwScript.Transcript

namespace NwScript

/-- The state of a sink while it takes the actions of a computation. -/
structure Sink where
  /-- How many more bytes fit; a sink without a bound takes all. -/
  room : Option Nat
  written : ByteArray := .empty
  /-- The events that happened so far, the latest first. -/
  reports : List Event := []
  /-- Whether a write has failed. -/
  full : Bool := false

namespace Sink

/-- Take a piece of text. -/
def write (sink : Sink) (text : String) : Sink :=
  let bytes := text.toUTF8
  match sink.room with
  | none => { sink with written := sink.written ++ bytes }
  | some room =>
      if bytes.size ≤ room then
        { sink with room := some (room - bytes.size), written := sink.written ++ bytes }
      else
        { sink with
          room := some 0, written := sink.written ++ bytes.extract 0 room, full := true }

/-- Take one action, unless an earlier write has failed. -/
def perform (sink : Sink) (action : Action String) : Sink :=
  if sink.full then sink
  else match action with
    | .write text => sink.write text
    | .log event => { sink with reports := event :: sink.reports }

end Sink

/-- What is left of a computation once a sink has taken its output. -/
structure Delivery where
  written : ByteArray
  events : List Event
  result : Outcome Unit

/-- Run a computation onto a sink that has room for so many bytes. -/
def Transcript.deliver (room : Option Nat) (t : Transcript String Unit) : Delivery :=
  let sink := t.actions.foldl Sink.perform { room := room }
  { written := sink.written
    events := sink.reports.reverse
    result := if sink.full then .error (.error (.inaccessible .sinkFull)) else t.result }

end NwScript
