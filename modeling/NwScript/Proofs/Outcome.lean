/-
# How computations end

A computation over a script yields a value or stops with a reason. `Ends` says
which reasons are allowed and what is known of the value; it is proved of a
whole computation from its parts, in the order in which they run. Following a
reference is held to the strictest form, in which no reason is allowed; writing
a script is held to the one that rules out unresolved references only.
-/

import Mathlib.Data.List.Forall2
import NwScript.Transcript

namespace NwScript

universe u

section Ends

variable {ε : Type u} {α β : Type}

@[simp]
theorem ok_bind (value : α) (next : α → Except ε β) : (Except.ok value >>= next) = next value :=
  rfl

@[simp]
theorem error_bind (reason : ε) (next : α → Except ε β) :
    (Except.error reason >>= next) = .error reason :=
  rfl

/-- A value at the end is the value of the second computation on that of the
first. -/
theorem bind_eq_ok_iff {first : Except ε α} {next : α → Except ε β} {result : β} :
    (first >>= next) = .ok result ↔ ∃ value, first = .ok value ∧ next value = .ok result := by
  constructor
  · intro h
    cases first with
    | error reason => cases h
    | ok value => exact ⟨value, rfl, h⟩
  · rintro ⟨value, rfl, hnext⟩
    exact hnext

/-- A function of the value comes to a result only if there is a value. -/
theorem map_eq_ok_iff {first : Except ε α} {f : α → β} {result : β} :
    f <$> first = .ok result ↔ ∃ value, first = .ok value ∧ f value = result := by
  constructor
  · intro h
    cases first with
    | error reason => cases h
    | ok value => exact ⟨value, rfl, Except.ok.inj h⟩
  · rintro ⟨value, rfl, rfl⟩
    rfl

/-- A function of the value does not change why there is none. -/
theorem map_eq_error_iff {first : Except ε α} {f : α → β} {reason : ε} :
    f <$> first = .error reason ↔ first = .error reason := by
  constructor
  · intro h
    cases first with
    | error other => exact congrArg Except.error (Except.error.inj h)
    | ok value => cases h
  · rintro rfl
    rfl

/-- Results that are put differently one by one are put differently as a list. -/
theorem mapM_map_comm {γ : Type} (f : α → Except ε β) (g : β → γ) (l : List α) :
    (l.mapM fun x => g <$> f x) = List.map g <$> l.mapM f := by
  induction l with
  | nil => rfl
  | cons x rest ih =>
      rw [List.mapM_cons, List.mapM_cons, ih]
      simp only [map_eq_pure_bind, bind_assoc, pure_bind, List.map_cons]

/-- Where every element of a list comes to a result, the results stand in the order of
the elements. -/
theorem forall₂_of_mapM_eq_ok {f : α → Except ε β} {l : List α} {results : List β}
    (h : l.mapM f = .ok results) : List.Forall₂ (fun x y => f x = .ok y) l results := by
  induction l generalizing results with
  | nil =>
      cases h
      exact .nil
  | cons x rest ih =>
      rw [List.mapM_cons] at h
      obtain ⟨y, hy, hrest⟩ := bind_eq_ok_iff.mp h
      obtain ⟨ys, hys, heq⟩ := bind_eq_ok_iff.mp hrest
      cases heq
      exact .cons hy (ih hys)

/-- What comes to a result differently, element by element, does so for the list. -/
theorem mapM_eq_ok_map {γ : Type} {f : α → Except ε β} {f' : α → Except ε γ} {g : β → γ}
    {l : List α} {results : List β} (h : l.mapM f = .ok results)
    (hg : ∀ x y, f x = .ok y → f' x = .ok (g y)) : l.mapM f' = .ok (results.map g) := by
  induction l generalizing results with
  | nil =>
      cases h
      rfl
  | cons x rest ih =>
      rw [List.mapM_cons] at h
      obtain ⟨y, hy, hrest⟩ := bind_eq_ok_iff.mp h
      obtain ⟨ys, hys, heq⟩ := bind_eq_ok_iff.mp hrest
      cases heq
      rw [List.mapM_cons, hg x y hy, ih hys]
      rfl

/-- What stands in the second of two related lists is related to something in the first. -/
theorem exists_of_forall₂ {R : α → β → Prop} {l : List α} {results : List β}
    (h : List.Forall₂ R l results) {y : β} (hy : y ∈ results) : ∃ x ∈ l, R x y := by
  induction h with
  | nil => cases hy
  | cons hx _ ih =>
      obtain rfl | hy := List.mem_cons.mp hy
      · exact ⟨_, List.mem_cons_self, hx⟩
      · obtain ⟨x, hmem, hx⟩ := ih hy
        exact ⟨x, List.mem_cons_of_mem _ hmem, hx⟩

/-- Every result for a list is the result for one of its elements. -/
theorem exists_of_mapM_eq_ok {f : α → Except ε β} {l : List α} {results : List β} {y : β}
    (h : l.mapM f = .ok results) (hy : y ∈ results) : ∃ x ∈ l, f x = .ok y :=
  exists_of_forall₂ (forall₂_of_mapM_eq_ok h) hy

/-- A computation comes to a value with a property, or it stops for a reason
that is allowed. -/
def Ends (allowed : ε → Prop) (holds : α → Prop) : Except ε α → Prop
  | .ok value => holds value
  | .error reason => allowed reason

namespace Ends

variable {allowed : ε → Prop} {holds : α → Prop} {holds' : β → Prop}

/-- A value ends a computation well if it has the property. -/
protected theorem pure {value : α} (h : holds value) :
    Ends allowed holds (Pure.pure value : Except ε α) :=
  h

/-- What is known of the value of a first computation is all that the second
one may rely on. -/
protected theorem bind {first : Except ε α} {next : α → Except ε β}
    (hfirst : Ends allowed holds first)
    (hnext : ∀ value, holds value → Ends allowed holds' (next value)) :
    Ends allowed holds' (first >>= next) := by
  cases first with
  | error reason => exact hfirst
  | ok value => exact hnext value hfirst

/-- A function of the value keeps what is known of it. -/
protected theorem map {first : Except ε α} {f : α → β}
    (hfirst : Ends allowed holds first) (hf : ∀ value, holds value → holds' (f value)) :
    Ends allowed holds' (f <$> first) := by
  cases first with
  | error reason => exact hfirst
  | ok value => exact hf value hfirst

/-- The property holds of the value that a computation comes to. -/
theorem of_ok {first : Except ε α} (hfirst : Ends allowed holds first) {value : α}
    (h : first = .ok value) : holds value := by
  rw [h] at hfirst
  exact hfirst

/-- The reason for which a computation stops is allowed. -/
theorem of_error {first : Except ε α} (hfirst : Ends allowed holds first) {reason : ε}
    (h : first = .error reason) : allowed reason := by
  rw [h] at hfirst
  exact hfirst

/-- Less may be claimed of the value. -/
theorem weaken {holds' : α → Prop} {first : Except ε α}
    (hfirst : Ends allowed holds first) (hweak : ∀ value, holds value → holds' value) :
    Ends allowed holds' first := by
  cases first with
  | error reason => exact hfirst
  | ok value => exact hweak value hfirst

/-- If each element of a list is handled well, so is the list, and what is
known of each result is known of all. -/
protected theorem mapM {f : α → Except ε β} {l : List α}
    (hf : ∀ x ∈ l, Ends allowed holds' (f x)) :
    Ends allowed (fun results => ∀ y ∈ results, holds' y) (l.mapM f) := by
  induction l with
  | nil =>
      intro y hy
      cases hy
  | cons x rest ih =>
      rw [List.mapM_cons]
      apply Ends.bind (hf x List.mem_cons_self)
      intro y hy
      apply Ends.bind (ih fun z hz => hf z (List.mem_cons_of_mem x hz))
      intro ys hys
      apply Ends.pure
      intro z hz
      rcases List.mem_cons.mp hz with rfl | hz
      · exact hy
      · exact hys z hz

/-- If each element of a list is handled well, so is the list, where nothing is
returned. -/
protected theorem forM {f : α → Except ε Unit} {l : List α}
    (hf : ∀ x ∈ l, Ends allowed (fun _ => True) (f x)) :
    Ends allowed (fun _ => True) (l.forM f) := by
  induction l with
  | nil => exact Ends.pure trivial
  | cons x rest ih =>
      apply Ends.bind (hf x List.mem_cons_self)
      intro _ _
      exact ih fun y hy => hf y (List.mem_cons_of_mem x hy)

end Ends

end Ends

/-- Whatever value a computation comes to, if it comes to one, has a property. -/
abbrev Gives {ε : Type u} {α : Type} (holds : α → Prop) (computation : Except ε α) : Prop :=
  Ends (fun _ => True) holds computation

/-- Every computation gives some value or none. -/
theorem Gives.any {ε : Type u} {α : Type} {computation : Except ε α} :
    Gives (fun _ => True) computation := by
  cases computation <;> trivial

/-- A reference is followed to its end, and what it leads to has a property. -/
abbrev Resolved.Yields {α : Type} (holds : α → Prop) (resolved : Resolved α) : Prop :=
  Ends (fun _ => False) holds resolved

/-- A failure that is reported as an error, and no reference into the void. -/
def Failure.Reported (failure : Failure) : Prop := ∃ error, failure = .error error

/-- A computation meets no unresolved reference, and its value has a property. -/
abbrev Outcome.Settles {α : Type} (holds : α → Prop) (outcome : Outcome α) : Prop :=
  Ends Failure.Reported holds outcome

/-- A computation comes to a value with a property. -/
abbrev Outcome.Yields {α : Type} (holds : α → Prop) (outcome : Outcome α) : Prop :=
  Ends (fun _ => False) holds outcome

namespace Outcome

variable {α : Type} {holds : α → Prop}

@[simp]
theorem ofResolved_ok (value : α) : Outcome.ofResolved (.ok value) = .ok value := rfl

/-- A value is found by following a reference. -/
theorem ofResolved_eq_ok_iff {resolved : Resolved α} {value : α} :
    Outcome.ofResolved resolved = .ok value ↔ resolved = .ok value := by
  cases resolved with
  | error reference => exact iff_of_false (fun h => by cases h) (fun h => by cases h)
  | ok found => rw [ofResolved_ok, Except.ok.injEq, Except.ok.injEq]

/-- A reference that can be followed comes to a value. -/
theorem yields_ofResolved {resolved : Resolved α} (h : resolved.Yields holds) :
    (Outcome.ofResolved resolved).Yields holds := by
  cases resolved with
  | error reference => exact False.elim h
  | ok value => exact h

/-- A computation that comes to a value settles. -/
theorem Yields.settles {outcome : Outcome α} (h : outcome.Yields holds) :
    outcome.Settles holds := by
  cases outcome with
  | error failure => exact False.elim h
  | ok value => exact h

/-- References that can be followed settle a computation. -/
theorem settles_ofResolved {resolved : Resolved α} (h : resolved.Yields holds) :
    (Outcome.ofResolved resolved).Settles holds :=
  (yields_ofResolved h).settles

/-- A computation that settles does not stop at a reference. -/
theorem Settles.ne_unresolved {outcome : Outcome α} (h : outcome.Settles holds)
    (reference : Reference) : outcome ≠ .error (.unresolved reference) := by
  intro heq
  obtain ⟨error, herror⟩ := h.of_error heq
  cases herror

end Outcome

section Succeeds

variable {ε : Type u} {α β : Type}

/-- A computation comes to a value. -/
def Succeeds (outcome : Except ε α) : Prop := ∃ value, outcome = .ok value

/-- A value is a success. -/
@[simp]
theorem succeeds_ok (value : α) : Succeeds (.ok value : Except ε α) := ⟨value, rfl⟩

/-- Returning a value is a success. -/
@[simp]
theorem succeeds_pure (value : α) : Succeeds (pure value : Except ε α) := ⟨value, rfl⟩

/-- Where nothing is returned, there is one way to succeed. -/
theorem succeeds_unit_iff {outcome : Except ε Unit} : Succeeds outcome ↔ outcome = .ok () := by
  constructor
  · rintro ⟨_, h⟩
    exact h
  · intro h
    exact ⟨(), h⟩

/-- A reason to stop is no success. -/
@[simp]
theorem not_succeeds_error (reason : ε) : ¬ Succeeds (.error reason : Except ε α) := by
  rintro ⟨value, hvalue⟩
  cases hvalue

/-- Two computations succeed one after the other if the first one does and the
second one does on its value. -/
theorem succeeds_bind {first : Except ε α} {next : α → Except ε β} :
    Succeeds (first >>= next) ↔ ∃ value, first = .ok value ∧ Succeeds (next value) := by
  simp only [Succeeds, bind_eq_ok_iff]
  constructor
  · rintro ⟨result, value, hfirst, hnext⟩
    exact ⟨value, hfirst, result, hnext⟩
  · rintro ⟨value, hfirst, result, hnext⟩
    exact ⟨result, value, hfirst, hnext⟩

/-- Whether the second computation succeeds may not depend on the value. -/
theorem succeeds_bind_iff {first : Except ε α} {next : α → Except ε β} {p : Prop}
    (h : ∀ value, Succeeds (next value) ↔ p) :
    Succeeds (first >>= next) ↔ Succeeds first ∧ p := by
  rw [succeeds_bind]
  constructor
  · rintro ⟨value, hvalue, hnext⟩
    exact ⟨⟨value, hvalue⟩, (h value).mp hnext⟩
  · rintro ⟨⟨value, hvalue⟩, hp⟩
    exact ⟨value, hvalue, (h value).mpr hp⟩

/-- A second computation that always succeeds does not matter. -/
theorem succeeds_bind_of_forall {first : Except ε α} {next : α → Except ε β}
    (h : ∀ value, Succeeds (next value)) : Succeeds (first >>= next) ↔ Succeeds first := by
  rw [succeeds_bind_iff fun value => iff_true_intro (h value), and_true]

/-- A function of the value does not change whether there is one. -/
@[simp]
theorem succeeds_map {first : Except ε α} {f : α → β} :
    Succeeds (f <$> first) ↔ Succeeds first :=
  succeeds_bind_of_forall fun value => succeeds_pure (f value)

/-- A list is handled if each of its elements is. -/
theorem succeeds_mapM {f : α → Except ε β} {l : List α} :
    Succeeds (l.mapM f) ↔ ∀ x ∈ l, Succeeds (f x) := by
  induction l with
  | nil => simp
  | cons x rest ih =>
      rw [List.mapM_cons, List.forall_mem_cons, ← ih]
      apply succeeds_bind_iff
      intro y
      exact succeeds_bind_of_forall fun ys => succeeds_pure (y :: ys)

/-- A list is handled if each of its elements is, where nothing is returned. -/
theorem succeeds_forM {f : α → Except ε Unit} {l : List α} :
    Succeeds (l.forM f) ↔ ∀ x ∈ l, Succeeds (f x) := by
  induction l with
  | nil => exact iff_of_true (succeeds_ok ()) fun x hx => absurd hx List.not_mem_nil
  | cons x rest ih =>
      rw [List.forall_mem_cons, ← ih]
      exact succeeds_bind_iff fun _ => Iff.rfl

/-- A computation with no allowed reason to stop has a value. -/
theorem Ends.exists_value {holds : α → Prop} {outcome : Except ε α}
    (h : Ends (fun _ => False) holds outcome) :
    ∃ value, outcome = .ok value ∧ holds value := by
  cases outcome with
  | error reason => exact False.elim h
  | ok value => exact ⟨value, rfl, h⟩

/-- A computation with no allowed reason to stop succeeds. -/
theorem Ends.succeeds {holds : α → Prop} {outcome : Except ε α}
    (h : Ends (fun _ => False) holds outcome) : Succeeds outcome := by
  obtain ⟨value, hvalue, _⟩ := h.exists_value
  exact ⟨value, hvalue⟩

end Succeeds

end NwScript
