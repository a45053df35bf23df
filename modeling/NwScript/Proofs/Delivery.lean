/-
# What a sink holds at the end

A sink is handed a computation action by action and has to decide each time how
much still fits. In the end it holds the text of the whole computation, cut at
the bound: pieces and cuts inside them leave no trace. It fails exactly if the
text is longer than the bound, and else the computation ends as it would have
without a sink.
-/

import NwScript.Proofs.Transcript
import NwScript.Sink

namespace NwScript

/-- The bytes that an action puts out. -/
def Action.bytes : Action String → ByteArray
  | .write text => text.toUTF8
  | .log _ => .empty

/-- The bytes that a computation puts out in all. -/
def Transcript.bytes {α : Type} (t : Transcript String α) : ByteArray :=
  (String.join t.outputs).toUTF8

namespace Sink

/-- The part of a text that a sink of a given size can hold. -/
def holds : Option Nat → ByteArray → ByteArray
  | none, bytes => bytes
  | some room, bytes => bytes.extract 0 room

/-- Whether a text is longer than a sink of a given size can hold. -/
def overflows : Option Nat → ByteArray → Bool
  | none, _ => false
  | some room, bytes => decide (room < bytes.size)

/-- The state of a sink of a given size after it was handed so many bytes. -/
structure Took (size : Option Nat) (bytes : ByteArray) (sink : Sink) : Prop where
  room : sink.room = size.map fun room => room - bytes.size
  written : sink.written = holds size bytes
  full : sink.full = overflows size bytes

variable {size : Option Nat} {bytes : ByteArray} {sink : Sink}

/-- A text that fits is held as a whole. -/
theorem holds_of_fits (h : overflows size bytes = false) : holds size bytes = bytes := by
  cases size with
  | none => rfl
  | some room =>
      have hroom : bytes.size ≤ room := by
        simpa [overflows] using h
      show bytes.extract 0 room = bytes
      rw [← Nat.max_eq_left hroom]
      exact ByteArray.extract_zero_max_size

/-- Where a text ends within the room for it, what follows gets the rest. -/
theorem holds_append (room : Nat) (h : bytes.size ≤ room) (more : ByteArray) :
    holds (some room) (bytes ++ more) = bytes ++ holds (some (room - bytes.size)) more := by
  have hbytes : holds (some room) bytes = bytes := holds_of_fits (decide_eq_false (by omega))
  show (bytes ++ more).extract 0 room = _
  rw [ByteArray.extract_append, Nat.zero_sub]
  exact congrArg (· ++ _) hbytes

/-- A full sink stays as it is, whatever it is handed. -/
theorem Took.append (took : Took size bytes sink) (h : sink.full = true) (more : ByteArray) :
    Took size (bytes ++ more) sink := by
  obtain ⟨hroom, hwritten, hfull⟩ := took
  cases size with
  | none =>
      rw [h] at hfull
      cases hfull
  | some room =>
      have hover : room < bytes.size := by
        rw [h] at hfull
        exact of_decide_eq_true hfull.symm
      have hsize : (bytes ++ more).size = bytes.size + more.size := ByteArray.size_append
      constructor
      · rw [hroom]
        show some (room - bytes.size) = some (room - (bytes ++ more).size)
        congr 1
        omega
      · rw [hwritten]
        show bytes.extract 0 room = (bytes ++ more).extract 0 room
        have hrest : room - bytes.size = 0 := by omega
        rw [ByteArray.extract_append, Nat.zero_sub, hrest, ByteArray.extract_same,
          ByteArray.append_empty]
      · rw [h]
        exact (decide_eq_true (by omega)).symm

/-- A sink that is not full takes a piece as far as it fits. -/
theorem Took.write (took : Took size bytes sink) (h : sink.full = false) (text : String) :
    Took size (bytes ++ text.toUTF8) (sink.write text) := by
  obtain ⟨hroom, hwritten, hfull⟩ := took
  rw [h] at hfull
  rw [holds_of_fits hfull.symm] at hwritten
  cases size with
  | none =>
      have hroom : sink.room = none := hroom
      rw [Sink.write]
      simp only [hroom, hwritten]
      exact { room := rfl, written := rfl, full := h }
  | some room =>
      have hroom : sink.room = some (room - bytes.size) := hroom
      have hfits : bytes.size ≤ room := by
        simpa [overflows] using hfull.symm
      have hsize : (bytes ++ text.toUTF8).size = bytes.size + text.toUTF8.size :=
        ByteArray.size_append
      rw [Sink.write]
      by_cases hpiece : text.toUTF8.size ≤ room - bytes.size
      · simp only [hroom, hwritten, if_pos hpiece]
        have hno : overflows (some room) (bytes ++ text.toUTF8) = false :=
          decide_eq_false (by omega)
        constructor
        · show some (room - bytes.size - text.toUTF8.size) =
            some (room - (bytes ++ text.toUTF8).size)
          congr 1
          omega
        · exact (holds_of_fits hno).symm
        · exact h.trans hno.symm
      · simp only [hroom, hwritten, if_neg hpiece]
        constructor
        · show some 0 = some (room - (bytes ++ text.toUTF8).size)
          congr 1
          omega
        · exact (holds_append room hfits text.toUTF8).symm
        · exact (decide_eq_true (by omega)).symm

/-- Each action is taken as what it puts out. -/
theorem Took.perform (took : Took size bytes sink) (action : Action String) :
    Took size (bytes ++ action.bytes) (sink.perform action) := by
  unfold Sink.perform
  -- A full sink does not even take reports, but it holds what it held.
  by_cases hfull : sink.full = true
  · rw [if_pos hfull]
    exact took.append hfull action.bytes
  · rw [if_neg hfull]
    cases action with
    | write text => exact took.write (eq_false_of_ne_true hfull) text
    | log event =>
        show Took size (bytes ++ ByteArray.empty) _
        rw [ByteArray.append_empty]
        exact { room := took.room, written := took.written, full := took.full }

end Sink

namespace Transcript

/-- The bytes of a computation are those of its first action, and then those of
the rest. -/
theorem bytes_cons {α : Type} (action : Action String) (rest : List (Action String))
    (result : Outcome α) :
    (⟨action :: rest, result⟩ : Transcript String α).bytes =
      action.bytes ++ (⟨rest, result⟩ : Transcript String α).bytes := by
  cases action with
  | write text =>
      simp [bytes, outputs, Action.bytes]
  | log event =>
      exact ByteArray.empty_append.symm

/-- All actions together are taken as what they put out in all. -/
theorem took_foldl {size : Option Nat} {bytes : ByteArray} {sink : Sink}
    (took : Sink.Took size bytes sink) (actions : List (Action String)) (result : Outcome Unit) :
    Sink.Took size (bytes ++ (⟨actions, result⟩ : Transcript String Unit).bytes)
      (actions.foldl Sink.perform sink) := by
  induction actions generalizing bytes sink with
  | nil =>
      show Sink.Took size (bytes ++ ByteArray.empty) sink
      rw [ByteArray.append_empty]
      exact took
  | cons action rest ih =>
      rw [bytes_cons, ← ByteArray.append_assoc]
      exact ih (took.perform action)

variable (size : Option Nat) (t : Transcript String Unit)

/-- A sink took all that the computation put out. -/
theorem took_actions :
    Sink.Took size t.bytes (t.actions.foldl Sink.perform { room := size }) := by
  have hempty : Sink.Took size .empty { room := size } := by
    cases size with
    | none => exact { room := rfl, written := rfl, full := rfl }
    | some room =>
        have hfits : Sink.overflows (some room) .empty = false :=
          decide_eq_false (Nat.not_lt_zero room)
        exact { room := rfl, written := (Sink.holds_of_fits hfits).symm, full := hfits.symm }
  have hall := took_foldl hempty t.actions t.result
  rw [ByteArray.empty_append] at hall
  exact hall

/-- A sink holds the bytes of a computation, as far as they fit. -/
theorem written_deliver : (t.deliver size).written = Sink.holds size t.bytes :=
  (took_actions size t).written

/-- A sink fails if the bytes of a computation do not fit, and changes nothing
if they do. -/
theorem result_deliver :
    (t.deliver size).result =
      if Sink.overflows size t.bytes then .error (.error (.inaccessible .sinkFull))
      else t.result := by
  rw [← (took_actions size t).full]
  rfl

/-- Of what a sink without a bound holds, a sink with a bound holds as much as
fits. -/
theorem written_deliver_bounded (room : Nat) :
    (t.deliver (some room)).written =
      (t.deliver none).written.extract 0 (min room (t.deliver none).written.size) := by
  rw [written_deliver, written_deliver]
  show t.bytes.extract 0 room = t.bytes.extract 0 (min room t.bytes.size)
  by_cases hfits : t.bytes.size ≤ room
  · have hall : Sink.holds (some room) t.bytes = t.bytes :=
      Sink.holds_of_fits (decide_eq_false (Nat.not_lt_of_le hfits))
    rw [Nat.min_eq_right hfits, ByteArray.extract_zero_size]
    exact hall
  · rw [Nat.min_eq_left (Nat.le_of_not_le hfits)]

/-- A sink with a bound changes how a computation ends only if not all of it
fits. -/
theorem result_deliver_bounded (room : Nat) :
    (t.deliver (some room)).result =
      if (t.deliver none).written.size ≤ room then (t.deliver none).result
      else .error (.error (.inaccessible .sinkFull)) := by
  rw [result_deliver, result_deliver, written_deliver]
  show (if decide (room < t.bytes.size) = true then _ else t.result) =
    if t.bytes.size ≤ room then t.result else _
  by_cases hfits : t.bytes.size ≤ room
  · rw [if_pos hfits, decide_eq_false (Nat.not_lt_of_le hfits)]
    rfl
  · rw [if_neg hfits, decide_eq_true (Nat.lt_of_not_le hfits)]
    rfl

end Transcript

end NwScript
