/-
# Names that are made up

What a script does not name is named by what it is and where it stands. Every
name that a label, a title or a jump shows is made up in this way or was given to
a subroutine; what is made up has only letters, digits and low lines in it. So
whether a name has a character that needs care is up to the script.
-/

import NwScript.Naming.Label
import NwScript.Proofs.Outcome

namespace NwScript

/-- A letter, a digit or a low line. -/
def IsNameChar (c : Char) : Prop := c.isAlphanum ∨ c = '_'

instance (c : Char) : Decidable (IsNameChar c) := inferInstanceAs (Decidable (_ ∨ _))

/-- A text of letters, digits and low lines. -/
def IsNameText (text : String) : Prop := ∀ c ∈ text.toList, IsNameChar c

instance (text : String) : Decidable (IsNameText text) :=
  List.decidableBAll IsNameChar text.toList

/-- A name that no script gives. -/
inductive MadeUp : String → Prop
  | start : MadeUp "_start"
  | initializer : MadeUp "_global"
  | jumpTarget (address : UInt32) : MadeUp (jumpTargetName address)
  | subRoutine (address : UInt32) : MadeUp (subRoutineAddressName address)
  | storeState (address : UInt32) : MadeUp (storeStateAddressName address)

/-- A name that is made up, or that a subroutine of the script has. -/
def Analysis.HasName (a : Analysis) (name : String) : Prop :=
  MadeUp name ∨ ∃ sub ∈ a.subRoutines, sub.name = some name

section Characters

/-- Hexadecimal digits may stand in names. -/
theorem isNameChar_digitChar : ∀ value < 16, IsNameChar (Text.digitChar value) := by
  decide

/-- What is made up of a beginning and an address has no other characters than
they have. -/
theorem isNameText_addressName {start : String} (hstart : IsNameText start) (address : UInt32) :
    IsNameText (start ++ Text.hex32 address) := by
  intro c hc
  rw [String.toList_append, List.mem_append, Text.hex32, String.toList_ofList] at hc
  obtain hmem | hmem := hc
  · exact hstart c hmem
  · obtain ⟨value, hvalue, rfl⟩ := Text.exists_of_mem_fixedDigits (by decide) hmem
    exact isNameChar_digitChar value hvalue

/-- A name that is made up has only letters, digits and low lines. -/
theorem MadeUp.isNameText {name : String} (h : MadeUp name) : IsNameText name := by
  cases h with
  | start => decide
  | initializer => decide
  | jumpTarget address => exact isNameText_addressName (by decide) address
  | subRoutine address => exact isNameText_addressName (by decide) address
  | storeState address => exact isNameText_addressName (by decide) address

end Characters

section Tables

variable {game : Game} {name : String}

/-- A name that counts is the one that was given. -/
theorem Game.eq_of_nonempty? {given : String} (h : nonempty? given = some name) : given = name := by
  unfold nonempty? at h
  split at h
  · cases h
  · exact Option.some.inj h

/-- The name of a function stands in the table of the game. -/
theorem Game.mem_of_function? {number : Nat} (h : game.function? number = some name) :
    name ∈ game.functions := by
  obtain ⟨given, hgiven, hkept⟩ := Option.bind_eq_some_iff.mp h
  rw [← eq_of_nonempty? hkept]
  exact List.mem_of_getElem? hgiven

/-- The name of an engine type stands in the table of the game. -/
theorem Game.mem_of_engineType? {slot : Nat} (h : game.engineType? slot = some name) :
    some name ∈ game.engineTypes := by
  obtain ⟨given, hgiven, hkept⟩ := Option.bind_eq_some_iff.mp h
  obtain ⟨entry, hentry, rfl⟩ := Option.bind_eq_some_iff.mp hgiven
  rw [← eq_of_nonempty? hkept]
  exact List.mem_of_getElem? hentry

end Tables

namespace Analysis

variable {a : Analysis} {name : String}

/-- If what is made up is in order and what subroutines are called is, every name
is. -/
theorem HasName.of_forall {good : String → Prop} (h : a.HasName name)
    (hmade : MadeUp name → good name)
    (hgiven : ∀ sub ∈ a.subRoutines, ∀ given ∈ sub.name, good given) : good name := by
  obtain hname | ⟨sub, hsub, hname⟩ := h
  · exact hmade hname
  · exact hgiven sub hsub name hname

/-- An index leads to a subroutine of the script. -/
theorem mem_of_subRoutineAt {id : SubId} {sub : SubRoutine} (h : a.subRoutineAt id = .ok sub) :
    sub ∈ a.subRoutines := by
  unfold subRoutineAt at h
  split at h
  · next found hfound =>
      cases h
      exact Array.mem_of_getElem? hfound
  · cases h

/-- What a subroutine is called at an address is its name, or it is made up. -/
theorem hasName_nameAt {sub : SubRoutine} (hsub : sub ∈ a.subRoutines) (address : UInt32) :
    a.HasName (sub.nameAt address) := by
  unfold SubRoutine.nameAt
  split
  · next given hgiven =>
      obtain ⟨name, hname, hkept⟩ := Option.bind_eq_some_iff.mp hgiven
      rw [← Game.eq_of_nonempty? hkept]
      exact .inr ⟨sub, hsub, hname⟩
  · cases sub.kind with
    | none => exact .inl (.subRoutine address)
    | start => exact .inl .start
    | global => exact .inl .initializer
    | storeState => exact .inl (.storeState address)

/-- A label is a name. -/
theorem hasName_of_label? {instr : Instruction} (h : a.label? instr = .ok (some name)) :
    a.HasName name := by
  unfold label? at h
  split at h
  · cases h
  · cases h
    exact .inl (.jumpTarget instr.address)
  · cases h
    exact .inl (.storeState instr.address)
  · obtain ⟨found, _, hname⟩ := bind_eq_ok_iff.mp h
    cases found with
    | none =>
        cases hname
        exact .inl (.subRoutine instr.address)
    | some id =>
        obtain ⟨sub, hsub, heq⟩ := bind_eq_ok_iff.mp hname
        cases heq
        exact hasName_nameAt (mem_of_subRoutineAt hsub) instr.address

/-- The label of an entry is a name. -/
theorem hasName_of_entryLabel? {entry : Option Instruction}
    (h : a.entryLabel? entry = .ok (some name)) : a.HasName name := by
  cases entry with
  | none => cases h
  | some instr => exact hasName_of_label? h

/-- A label, or the name of an address where there is none, is a name. -/
theorem hasName_getD {label : Option String} (h : ∀ given ∈ label, a.HasName given)
    (address : UInt32) : a.HasName (label.getD (jumpTargetName address)) := by
  cases label with
  | none => exact .inl (.jumpTarget address)
  | some given => exact h given rfl

/-- Where a jump leads has a name. -/
theorem hasName_of_targetName {instr : Instruction} (h : a.targetName instr = .ok name) :
    a.HasName name := by
  obtain ⟨label, hlabel, heq⟩ := bind_eq_ok_iff.mp h
  cases heq
  refine hasName_getD (fun given hgiven => ?_) instr.address
  cases hgiven
  exact hasName_of_label? hlabel

end Analysis

end NwScript
