/-
# What quoting changes

Quoting puts a backslash before some characters and leaves the others alone, one
by one. So parts are quoted like the whole, and a text stays as it is exactly if
it has neither a quote nor a backslash. A reader passes what was quoted and is in
step again behind it, so no quote is left that could be taken for the closing one,
also where the text is cut off, and what was quoted is read back.
-/

import NwScript.Text.Quoted

namespace NwScript.Text

/-- A character that stands for itself between quotes. -/
def IsPlain (c : Char) : Prop := c ≠ '"' ∧ c ≠ '\\'

instance (c : Char) : Decidable (IsPlain c) := inferInstanceAs (Decidable (_ ∧ _))

/-- A text of which every character stands for itself between quotes. -/
def Plain (text : String) : Prop := ∀ c ∈ text.toList, IsPlain c

instance (text : String) : Decidable (Plain text) := List.decidableBAll IsPlain text.toList

/-- A plain character is kept, any other gets a backslash before it. -/
theorem escape_cons (c : Char) (rest : List Char) :
    escape (c :: rest) = if IsPlain c then c :: escape rest else '\\' :: c :: escape rest := by
  by_cases hquote : c = '"'
  · subst hquote
    rfl
  · by_cases hescape : c = '\\'
    · subst hescape
      rfl
    · rw [if_pos ⟨hquote, hescape⟩, escape]
      · exact hescape
      · exact hquote

/-- Parts are quoted one after the other. -/
theorem escape_append (first second : List Char) :
    escape (first ++ second) = escape first ++ escape second := by
  induction first with
  | nil => rfl
  | cons c rest ih =>
      rw [List.cons_append, escape_cons, escape_cons, ih]
      split <;> rfl

/-- Quoting adds backslashes only. -/
theorem eq_or_mem_of_mem_escape {c : Char} {text : List Char} (h : c ∈ escape text) :
    c = '\\' ∨ c ∈ text := by
  induction text with
  | nil => cases h
  | cons first rest ih =>
      rw [escape_cons] at h
      split at h <;> grind

/-- Quoting takes nothing away. -/
theorem length_le_escape (text : List Char) : text.length ≤ (escape text).length := by
  induction text with
  | nil => exact Nat.le_refl 0
  | cons c rest ih =>
      rw [escape_cons]
      split <;> simp only [List.length_cons] <;> omega

/-- A text is quoted as itself exactly if each of its characters is plain. -/
theorem escape_eq_self_iff {text : List Char} : escape text = text ↔ ∀ c ∈ text, IsPlain c := by
  induction text with
  | nil => simp [escape]
  | cons c rest ih =>
      rw [escape_cons, List.forall_mem_cons]
      split
      · next hplain => simp [hplain, ih]
      · next hplain =>
          simp only [hplain, false_and, iff_false]
          intro h
          have hlength := congrArg List.length h
          have := length_le_escape rest
          simp only [List.length_cons] at hlength
          omega

/-! ## Reading on -/

/-- A part of what stands between quotes is passed as a text if it is read as that text and
the reader goes on behind it as if it began there. -/
def Passes (part text : List Char) : Prop :=
  ∀ rest, unescape (part ++ rest) = (unescape rest).map fun (read, after) => (text ++ read, after)

section Passing

variable {c : Char} {part second text read : List Char}

theorem passes_nil : Passes [] [] := fun _ => by simp

/-- Parts are passed one after the other. -/
theorem Passes.append (h : Passes part text) (hsecond : Passes second read) :
    Passes (part ++ second) (text ++ read) := by
  intro rest
  rw [List.append_assoc, h, hsecond, Option.map_map]
  simp [Function.comp_def]

/-- Parts that are passed one by one are passed as a whole. -/
theorem passes_flatMap {α : Type} {parts : List α} {written shown : α → List Char}
    (h : ∀ part ∈ parts, Passes (written part) (shown part)) :
    Passes (parts.flatMap written) (parts.flatMap shown) := by
  induction parts with
  | nil => exact passes_nil
  | cons first parts ih =>
      rw [List.forall_mem_cons] at h
      rw [List.flatMap_cons, List.flatMap_cons]
      exact h.1.append (ih h.2)

/-- A plain character is passed as itself. -/
theorem passes_plain (h : IsPlain c) : Passes [c] [c] := by
  intro rest
  rw [List.singleton_append, unescape]
  · rfl
  · exact h.1
  · exact fun _ _ hc _ => h.2 hc
  · exact fun hc _ => h.2 hc

/-- A backslash and any character behind it are passed as that character. -/
theorem passes_backslash (c : Char) : Passes ['\\', c] [c] := fun _ => rfl

/-- What was quoted is passed as what it was. -/
theorem passes_escape (text : List Char) : Passes (escape text) text := by
  induction text with
  | nil => exact passes_nil
  | cons c rest ih =>
      rw [escape_cons]
      split
      · next hplain => exact (passes_plain hplain).append ih
      · exact (passes_backslash c).append ih

/-- The quote behind a part that is passed is the closing one. -/
theorem Passes.closes (h : Passes part text) (after : List Char) :
    unescape (part ++ '"' :: after) = some (text, after) := by
  rw [h, unescape]
  simp

/-- In a part that is passed there is no closing quote. -/
theorem Passes.not_closed (h : Passes part text) : unescape part = none := by
  have hnil := h []
  rwa [List.append_nil] at hnil

/-- Where quoted text is cut off, a beginning of the text has been quoted, with at most the
backslash of the next character behind it. -/
theorem exists_take_escape (text : List Char) (count : Nat) :
    ∃ size, (escape text).take count = escape (text.take size) ∨
      (escape text).take count = escape (text.take size) ++ ['\\'] := by
  induction text generalizing count with
  | nil => exact ⟨0, .inl List.take_nil⟩
  | cons c rest ih =>
      rw [escape_cons]
      split
      · next hplain =>
          cases count with
          | zero => exact ⟨0, .inl rfl⟩
          | succ count =>
              obtain ⟨size, hsize⟩ := ih count
              refine ⟨size + 1, ?_⟩
              rw [List.take_succ_cons, List.take_succ_cons, escape_cons, if_pos hplain]
              exact hsize.imp (congrArg (c :: ·)) (congrArg (c :: ·))
      · next hspecial =>
          match count with
          | 0 => exact ⟨0, .inl rfl⟩
          | 1 => exact ⟨0, .inr rfl⟩
          | count + 2 =>
              obtain ⟨size, hsize⟩ := ih count
              refine ⟨size + 1, ?_⟩
              rw [List.take_succ_cons, List.take_succ_cons, List.take_succ_cons, escape_cons,
                if_neg hspecial]
              exact hsize.imp (congrArg ('\\' :: c :: ·)) (congrArg ('\\' :: c :: ·))

/-- No beginning of quoted text has a closing quote. -/
theorem unescape_take_escape (text : List Char) (count : Nat) :
    unescape ((escape text).take count) = none := by
  obtain ⟨size, hwhole | hcut⟩ := exists_take_escape text count
  · rw [hwhole, (passes_escape _).not_closed]
  · rw [hcut, passes_escape]
    rfl

end Passing

/-- What was quoted is read up to the closing quote. -/
theorem unescape_quote (text : String) (after : List Char) :
    unescape ((quote text).toList ++ '"' :: after) = some (text.toList, after) := by
  rw [quote, String.toList_ofList]
  exact (passes_escape text.toList).closes after

/-- Texts that are quoted in the same way are the same. -/
theorem quote_injective : Function.Injective quote := by
  intro first second h
  have hread := unescape_quote first []
  rw [h, unescape_quote, Option.some.injEq, Prod.mk.injEq, String.toList_inj] at hread
  exact hread.1.symm

/-- The text between quotes, without the backslashes that were put into it. -/
def unquoted? (literal : String) : Option String :=
  match literal.toList with
  | '"' :: rest =>
      match unescape rest with
      | some (text, []) => some (String.ofList text)
      | _ => none
  | _ => none

/-- A text is read back from between its quotes. -/
theorem unquoted?_quote (text : String) : unquoted? ("\"" ++ quote text ++ "\"") = some text := by
  have hchars : ("\"" ++ quote text ++ "\"").toList = '"' :: (escape text.toList ++ '"' :: []) := by
    simp [quote]
  simp only [unquoted?, hchars, (passes_escape text.toList).closes, String.ofList_toList]

end NwScript.Text
