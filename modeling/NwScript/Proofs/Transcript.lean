/-
# Results and outputs of transcripts

How a transcript ends, and what it puts out, is determined by its parts. Results
compose like outcomes; the outputs of a part that comes to a value stand before
those of the rest, and nothing follows a part that stops. Events are left aside:
they change neither.
-/

import NwScript.Proofs.Outcome
import NwScript.Transcript

namespace NwScript

/-- What is written of groups of things is what is written of each group, one after the other. -/
theorem join_map_flatMap {α β : Type} (write : β → String) (group : α → List β) (l : List α) :
    String.join ((l.flatMap group).map write) =
      String.join (l.map fun x => String.join ((group x).map write)) := by
  induction l with
  | nil => rfl
  | cons x rest ih =>
      rw [List.flatMap_cons, List.map_append, String.join_append, ih, List.map_cons,
        String.join_cons]

namespace Transcript

variable {ω ω' α β : Type}

section Results

@[simp]
theorem result_pure (value : α) : (pure value : Transcript ω α).result = .ok value := rfl

@[simp]
theorem result_write (output : ω) : (write output).result = .ok () := rfl

@[simp]
theorem result_log (event : Event) : (log event : Transcript ω Unit).result = .ok () := rfl

@[simp]
theorem result_liftM (outcome : Outcome α) :
    (liftM outcome : Transcript ω α).result = outcome := rfl

@[simp]
theorem result_mapOutputs (f : ω → ω') (t : Transcript ω α) :
    (t.mapOutputs f).result = t.result := rfl

/-- Holding text back does not change how a computation ends. -/
@[simp]
theorem result_buffered (t : Transcript String α) : t.buffered.result = t.result := by
  rcases t with ⟨actions, failure | value⟩ <;> rfl

/-- The result of two computations, one after the other. -/
@[simp]
theorem result_bind (first : Transcript ω α) (next : α → Transcript ω β) :
    (first >>= next).result = first.result >>= fun value => (next value).result := by
  rcases first with ⟨actions, failure | value⟩ <;> rfl

/-- The result of a computation for each element of a list. -/
theorem result_mapM (f : α → Transcript ω β) (l : List α) :
    (l.mapM f).result = l.mapM fun x => (f x).result := by
  induction l with
  | nil => rfl
  | cons x rest ih => simp only [List.mapM_cons, result_bind, result_pure, ih]; rfl

/-- The result of a computation for each element of a list, where nothing is
returned. -/
theorem result_forM (f : α → Transcript ω Unit) (l : List α) :
    (l.forM f).result = l.forM fun x => (f x).result := by
  induction l with
  | nil => rfl
  | cons x rest ih =>
      show (f x >>= fun _ => rest.forM f).result = _
      rw [result_bind, ih]
      rfl

/-- Putting out one piece after the other comes to its end. -/
theorem result_forM_write (piece : α → ω) (l : List α) :
    (l.forM fun x => write (piece x)).result = .ok () := by
  induction l with
  | nil => rfl
  | cons x rest ih =>
      show (write (piece x) >>= fun _ => rest.forM fun y => write (piece y)).result = _
      rw [result_bind]
      exact ih

end Results

section Outputs

@[simp]
theorem outputs_pure (value : α) : (pure value : Transcript ω α).outputs = [] := rfl

@[simp]
theorem outputs_write (output : ω) : (write output).outputs = [output] := rfl

@[simp]
theorem outputs_log (event : Event) : (log event : Transcript ω Unit).outputs = [] := rfl

@[simp]
theorem outputs_liftM (outcome : Outcome α) :
    (liftM outcome : Transcript ω α).outputs = [] := rfl

/-- The outputs of a computation that goes on. -/
theorem outputs_bind_of_ok {first : Transcript ω α} {value : α} (h : first.result = .ok value)
    (next : α → Transcript ω β) :
    (first >>= next).outputs = first.outputs ++ (next value).outputs := by
  obtain ⟨actions, result⟩ := first
  subst h
  exact List.filterMap_append

/-- The outputs of a computation that stops early. -/
theorem outputs_bind_of_error {first : Transcript ω α} {failure : Failure}
    (h : first.result = .error failure) (next : α → Transcript ω β) :
    (first >>= next).outputs = first.outputs := by
  obtain ⟨actions, result⟩ := first
  subst h
  rfl

/-- A value that is found at once leaves the outputs of what follows. -/
theorem outputs_liftM_bind_of_ok {outcome : Outcome α} {value : α} (h : outcome = .ok value)
    (next : α → Transcript ω β) :
    ((liftM outcome : Transcript ω α) >>= next).outputs = (next value).outputs := by
  rw [outputs_bind_of_ok ((result_liftM outcome).trans h), outputs_liftM, List.nil_append]

/-- What goes before without putting anything out does not show in the text. -/
theorem text_bind_of_silent {first : Transcript String α} {value : α}
    (h : first.result = .ok value) (silent : first.outputs = [])
    (next : α → Transcript String Unit) : (first >>= next).text = (next value).text := by
  rw [text, text, result_bind, h, outputs_bind_of_ok h, silent]
  rfl

/-- Computations that put out nothing put out nothing together. -/
theorem outputs_bind_eq_nil {first : Transcript ω α} {next : α → Transcript ω β}
    (hfirst : first.outputs = []) (hnext : ∀ value, (next value).outputs = []) :
    (first >>= next).outputs = [] := by
  cases h : first.result with
  | error failure => rw [outputs_bind_of_error h, hfirst]
  | ok value => rw [outputs_bind_of_ok h, hfirst, hnext, List.append_nil]

/-- Computations for the elements of a list put out nothing if none of them does. -/
theorem outputs_mapM_eq_nil {f : α → Transcript ω β} (hf : ∀ x, (f x).outputs = [])
    (l : List α) : (l.mapM f).outputs = [] := by
  induction l with
  | nil => rfl
  | cons x rest ih =>
      rw [List.mapM_cons]
      apply outputs_bind_eq_nil (hf x)
      intro y
      exact outputs_bind_eq_nil ih fun ys => outputs_pure (y :: ys)

/-- Putting out one piece after the other puts out all of them, in their order. -/
theorem outputs_forM_write (piece : α → ω) (l : List α) :
    (l.forM fun x => write (piece x)).outputs = l.map piece := by
  induction l with
  | nil => rfl
  | cons x rest ih =>
      show (write (piece x) >>= fun _ => rest.forM fun y => write (piece y)).outputs = _
      rw [outputs_bind_of_ok (result_write _), outputs_write, ih]
      rfl

/-- Outputs that are put differently are the same ones, each put differently. -/
theorem outputs_mapOutputs (f : ω → ω') (t : Transcript ω α) :
    (t.mapOutputs f).outputs = t.outputs.map f := by
  simp only [mapOutputs, outputs, List.filterMap_map, List.map_filterMap]
  congr 1
  funext action
  cases action <;> rfl

/-- Reports are no output. -/
theorem outputs_reports (events : List Event) (result : Outcome α) :
    (⟨events.map .log, result⟩ : Transcript ω α).outputs = [] := by
  induction events with
  | nil => rfl
  | cons event rest ih => exact ih

/-- A computation whose text is held back puts out nothing if it stops early. -/
theorem outputs_buffered_of_error {t : Transcript String α} {failure : Failure}
    (h : t.result = .error failure) : t.buffered.outputs = [] := by
  obtain ⟨actions, result⟩ := t
  subst h
  exact outputs_reports _ (Except.error failure)

/-- If it comes to its end, it puts out all of its text as one piece. -/
theorem outputs_buffered_of_ok {t : Transcript String α} {value : α} (h : t.result = .ok value) :
    t.buffered.outputs = [String.join t.outputs] := by
  obtain ⟨actions, result⟩ := t
  subst h
  have hreports : (⟨_, .ok value⟩ : Transcript String α).outputs = [] :=
    outputs_reports (events ⟨actions, .ok value⟩) (Except.ok value)
  exact List.filterMap_append.trans (congrArg (· ++ _) hreports)

end Outputs

section Puts

/-- Everything that a computation puts out, until it ends or stops, has a property. -/
def Puts (holds : ω → Prop) (t : Transcript ω α) : Prop := ∀ output ∈ t.outputs, holds output

variable {holds : ω → Prop}

/-- What puts out nothing puts out nothing wrong. -/
theorem Puts.of_outputs_eq_nil {t : Transcript ω α} (h : t.outputs = []) : t.Puts holds := by
  intro output houtput
  rw [h] at houtput
  cases houtput

/-- A piece that has the property may be put out. -/
theorem Puts.write {output : ω} (h : holds output) : (write output).Puts holds := by
  intro other hother
  rw [outputs_write, List.mem_singleton] at hother
  rw [hother]
  exact h

/-- Two computations keep to the property if both do, the second one on every value
that the first one can come to. -/
theorem Puts.bind {first : Transcript ω α} {next : α → Transcript ω β}
    (hfirst : first.Puts holds) (hnext : ∀ value, first.result = .ok value →
      (next value).Puts holds) : (first >>= next).Puts holds := by
  intro output houtput
  cases h : first.result with
  | error failure =>
      rw [outputs_bind_of_error h] at houtput
      exact hfirst output houtput
  | ok value =>
      rw [outputs_bind_of_ok h, List.mem_append] at houtput
      exact houtput.elim (hfirst output) (hnext value h output)

/-- Computations for the elements of a list keep to the property if each does. -/
theorem Puts.forM {f : α → Transcript ω Unit} {l : List α} (hf : ∀ x ∈ l, (f x).Puts holds) :
    (l.forM f).Puts holds := by
  induction l with
  | nil => exact .of_outputs_eq_nil rfl
  | cons x rest ih =>
      rw [List.forall_mem_cons] at hf
      exact Puts.bind hf.1 fun _ _ => ih hf.2

/-- What is put out are the pieces of the actions. -/
theorem mem_outputs_iff {t : Transcript ω α} {output : ω} :
    output ∈ t.outputs ↔ .write output ∈ t.actions := by
  rw [outputs, List.mem_filterMap]
  constructor
  · rintro ⟨action, haction, heq⟩
    cases action with
    | write other =>
        cases heq
        exact haction
    | log event => cases heq
  · intro h
    exact ⟨_, h, rfl⟩

end Puts

section Pieces

/-- All pieces of a computation that comes to its end, or why it does not. -/
def pieces (t : Transcript ω Unit) : Outcome (List ω) := t.result.map fun _ => t.outputs

/-- A computation that comes to its end has put out all pieces. -/
theorem pieces_of_ok {t : Transcript ω Unit} (h : t.result = .ok ()) :
    t.pieces = .ok t.outputs := by
  rw [pieces, h]
  rfl

/-- There are all pieces if the computation comes to its end. -/
theorem succeeds_pieces {t : Transcript ω Unit} : Succeeds t.pieces ↔ Succeeds t.result :=
  succeeds_map

@[simp]
theorem pieces_write (output : ω) : (write output).pieces = .ok [output] := rfl

/-- Two computations have the pieces of the first and then those of the second. -/
theorem pieces_bind (first : Transcript ω Unit) (next : Unit → Transcript ω Unit) :
    (first >>= next).pieces = (do return (← first.pieces) ++ (← (next ()).pieces)) := by
  cases h : first.result with
  | error failure => simp [pieces, h, Except.map]
  | ok value =>
      simp only [pieces, result_bind, outputs_bind_of_ok h, h, ok_bind, Except.map]
      cases (next ()).result <;> rfl

/-- A value that is found at once decides what the pieces are. -/
theorem pieces_liftM_bind (outcome : Outcome α) (next : α → Transcript ω Unit) :
    ((liftM outcome : Transcript ω α) >>= next).pieces =
      outcome >>= fun value => (next value).pieces := by
  cases outcome <;> rfl

/-- Computations for the elements of a list have their pieces one after the other. -/
theorem pieces_forM (f : α → Transcript ω Unit) (l : List α) :
    (l.forM f).pieces = List.flatten <$> l.mapM fun x => (f x).pieces := by
  induction l with
  | nil => rfl
  | cons x rest ih =>
      show (f x >>= fun _ => rest.forM f).pieces = _
      rw [pieces_bind, ih]
      simp [List.mapM_cons]

end Pieces

end Transcript

end NwScript
