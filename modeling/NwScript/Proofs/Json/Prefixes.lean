/-
# Values that have begun

Of a number, a string, an array or an object that has begun, the grammar says which bytes
may have been taken so far. One part more is taken at the end, where the grammar itself
puts its parts one in front of the other; so every part comes here with the lemma that it
may be put behind. A number that may end where it stands is then spelled by its bytes, and
so are the items of an array and the members of an object, up to the bracket.
-/

import Mathlib.Data.List.Basic
import NwScript.Proofs.Json.Spelling

namespace NwScript.Json

/-! ## Blanks and digits -/

/-- Blanks with one more behind them. -/
theorem Blank.concat {bytes : List UInt8} {b : UInt8} (h : Blank bytes) (hb : isBlank b = true) :
    Blank (bytes ++ [b]) :=
  List.forall_mem_append.mpr ⟨h, List.forall_mem_singleton.mpr hb⟩

/-- Only the byte of a digit has the value of one. -/
theorem digit?_eq_some {b : UInt8} {d : Nat} (h : digit? b = some d) :
    d < 10 ∧ b = digitByte d := by
  rw [digit?, Option.ite_none_right_eq_some] at h
  obtain ⟨range, hd⟩ := h
  simp only [Bool.and_eq_true, decide_eq_true_eq, UInt8.le_iff_toNat_le, UInt8.reduceToNat] at range
  cases hd
  have value : 0x30 + (b.toNat - 0x30) = b.toNat := by omega
  exact ⟨by omega, by rw [digitByte, value, UInt8.ofNat_toNat]⟩

/-- A row of digits with one more behind it. -/
theorem IsDigits.concat {digits : List Nat} (h : ∀ d ∈ digits, d < 10) {d : Nat} (hd : d < 10) :
    IsDigits (digits ++ [d]) where
  nonempty := by simp
  small := List.forall_mem_append.mpr ⟨h, List.forall_mem_singleton.mpr hd⟩

/-- The digits before the point with one more behind them. -/
theorem IsWhole.concat {digits : List Nat} (h : IsWhole digits) (other : digits ≠ [0]) {d : Nat}
    (hd : d < 10) : IsWhole (digits ++ [d]) where
  toIsDigits := .concat h.small hd
  leading := by
    rw [List.head?_append_of_ne_nil _ h.nonempty]
    exact fun zero => absurd (h.leading zero) other

/-- One digit before the point. -/
theorem isWhole_singleton {d : Nat} (hd : d < 10) : IsWhole [d] where
  nonempty := List.cons_ne_nil d []
  small := by simpa using hd
  leading := by simp

/-- The bytes of a row of digits with one more behind it. -/
theorem digitBytes_concat (digits : List Nat) (d : Nat) :
    digitBytes (digits ++ [d]) = digitBytes digits ++ [digitByte d] :=
  List.map_append

/-! ## Numbers -/

/-- The bytes of a number in its parts: what is in front of it, the digits before the
point, the fraction and the exponent. -/
def numberBytes (negative : Bool) (whole : List Nat) (fraction exponent : List UInt8) :
    List UInt8 :=
  (if negative then [0x2D] else []) ++ digitBytes whole ++ fraction ++ exponent

section Bytes

variable {negative : Bool} {whole : List Nat} {fraction exponent : List UInt8}

/-- A digit behind those before the point. -/
theorem numberBytes_whole_concat (d : Nat) :
    numberBytes negative whole [] [] ++ [digitByte d] =
      numberBytes negative (whole ++ [d]) [] [] := by
  simp only [numberBytes, digitBytes_concat, List.append_assoc, List.append_nil]

/-- A byte behind the fraction. -/
theorem numberBytes_fraction_concat (b : UInt8) :
    numberBytes negative whole fraction [] ++ [b] =
      numberBytes negative whole (fraction ++ [b]) [] := by
  simp only [numberBytes, List.append_assoc, List.append_nil]

/-- A byte behind the exponent. -/
theorem numberBytes_exponent_concat (b : UInt8) :
    numberBytes negative whole fraction exponent ++ [b] =
      numberBytes negative whole fraction (exponent ++ [b]) := by
  simp only [numberBytes, List.append_assoc]

end Bytes

/-- The bytes that may lie behind the reader within a number. -/
inductive PartialNumeral.Behind : PartialNumeral → List UInt8 → Prop
  | sign {negative : Bool} : Behind { phase := .sign, negative } (numberBytes negative [] [] [])
  | zero {negative : Bool} :
      Behind { phase := .zero, negative, whole := [0] } (numberBytes negative [0] [] [])
  | whole {negative : Bool} {whole : List Nat} (h : IsWhole whole.reverse)
      (other : whole.reverse ≠ [0]) :
      Behind { phase := .whole, negative, whole } (numberBytes negative whole.reverse [] [])
  | point {negative : Bool} {whole : List Nat} (h : IsWhole whole.reverse) :
      Behind { phase := .point, negative, whole } (numberBytes negative whole.reverse [0x2E] [])
  | fraction {negative : Bool} {whole fraction : List Nat} (h : IsWhole whole.reverse)
      (hfraction : IsDigits fraction.reverse) :
      Behind { phase := .fraction, negative, whole, fraction }
        (numberBytes negative whole.reverse (0x2E :: digitBytes fraction.reverse) [])
  | exponentMark {negative : Bool} {whole fraction : List Nat} {bytes : List UInt8} {mark : UInt8}
      (h : IsWhole whole.reverse) (hfraction : SpellsFraction fraction.reverse bytes)
      (hmark : mark = 0x65 ∨ mark = 0x45) :
      Behind { phase := .exponentMark, negative, whole, fraction }
        (numberBytes negative whole.reverse bytes [mark])
  | exponentSign {negative exponentNegative : Bool} {whole fraction : List Nat}
      {bytes sign : List UInt8} {mark : UInt8} (h : IsWhole whole.reverse)
      (hfraction : SpellsFraction fraction.reverse bytes) (hmark : mark = 0x65 ∨ mark = 0x45)
      (hsign : SpellsExponentSign exponentNegative sign) :
      Behind { phase := .exponentSign, negative, whole, fraction, exponentNegative }
        (numberBytes negative whole.reverse bytes (mark :: sign))
  | exponent {negative exponentNegative : Bool} {whole fraction exponent : List Nat}
      {bytes sign : List UInt8} {mark : UInt8} (h : IsWhole whole.reverse)
      (hfraction : SpellsFraction fraction.reverse bytes) (hmark : mark = 0x65 ∨ mark = 0x45)
      (hsign : SpellsExponentSign exponentNegative sign) (hexponent : IsDigits exponent.reverse) :
      Behind { phase := .exponent, negative, whole, fraction, exponentNegative, exponent }
        (numberBytes negative whole.reverse bytes (mark :: sign ++ digitBytes exponent.reverse))

namespace PartialNumeral.Behind

variable {n longer : PartialNumeral} {bytes : List UInt8} {b : UInt8}

/-- A number that may end is spelled by what lies behind. -/
theorem spells (h : n.Behind bytes) (hend : n.mayEnd = true) : n.numeral.Spells bytes := by
  cases h with
  | sign | point | exponentMark | exponentSign => cases hend
  | zero => exact .mk (isWhole_singleton (by decide)) .none .none
  | whole h _ => exact .mk h .none .none
  | fraction h hfraction => exact .mk h (.some hfraction) .none
  | @exponent negative exponentNegative whole fraction exponent bytes sign mark h hfraction hmark
      hsign hexponent =>
      have taken : exponent.isEmpty = false := by
        simpa using hexponent.nonempty
      rw [numeral]
      simp only [taken, Bool.false_eq_true, if_false]
      exact .mk h hfraction (.some hmark hsign hexponent)

/-- A digit goes on with a number. -/
theorem extend_digit {d : Nat} (hd : d < 10) (h : n.Behind bytes)
    (hb : n.extend? (digitByte d) = some longer) : longer.Behind (bytes ++ [digitByte d]) := by
  rw [extend?, digit?_digitByte hd] at hb
  cases h with
  | @sign minus =>
      rw [numberBytes_whole_concat]
      cases d with
      | zero =>
          cases hb
          exact .zero
      | succ d =>
          cases hb
          exact @whole minus [d + 1] (isWhole_singleton hd) (by simp)
  | zero => cases hb
  | whole h other =>
      cases hb
      rw [numberBytes_whole_concat, ← List.reverse_cons]
      refine .whole ?_ ?_
      all_goals rw [List.reverse_cons]
      · exact h.concat other hd
      · intro single
        obtain ⟨none, -⟩ : _ = [] ∧ [d] = [0] := List.append_inj' single rfl
        exact h.nonempty none
  | point h =>
      cases hb
      rw [numberBytes_fraction_concat]
      exact @fraction _ _ [d] h (isWhole_singleton hd).toIsDigits
  | fraction h hfraction =>
      cases hb
      rw [numberBytes_fraction_concat, List.cons_append, ← digitBytes_concat, ← List.reverse_cons]
      refine .fraction h ?_
      rw [List.reverse_cons]
      exact .concat hfraction.small hd
  | exponentMark h hfraction hmark =>
      cases hb
      rw [numberBytes_exponent_concat]
      exact @exponent _ _ _ _ [d] _ _ _ h hfraction hmark .none (isWhole_singleton hd).toIsDigits
  | exponentSign h hfraction hmark hsign =>
      cases hb
      rw [numberBytes_exponent_concat]
      exact @exponent _ _ _ _ [d] _ _ _ h hfraction hmark hsign (isWhole_singleton hd).toIsDigits
  | exponent h hfraction hmark hsign hexponent =>
      cases hb
      rw [numberBytes_exponent_concat, List.append_assoc, ← digitBytes_concat, ← List.reverse_cons]
      refine .exponent h hfraction hmark hsign ?_
      rw [List.reverse_cons]
      exact .concat hexponent.small hd

/-- The mark of an exponent goes on with the digits before the point and with a fraction,
and a point does so where there is no fraction. -/
theorem extend_mantissa {phase : NumberPhase} {minus : Bool} {digits places : List Nat}
    (h : IsWhole digits.reverse) (hplaces : SpellsFraction places.reverse bytes)
    (without : phase ≠ .fraction → places = [] ∧ bytes = [])
    (hb : (if b = 0x65 || b = 0x45 then
        some { phase := .exponentMark, negative := minus, whole := digits, fraction := places }
      else if b = 0x2E && phase != .fraction then
        some { phase := .point, negative := minus, whole := digits, fraction := places }
      else none) = some longer) :
    longer.Behind (numberBytes minus digits.reverse bytes [] ++ [b]) := by
  simp only [Bool.or_eq_true, Bool.and_eq_true, decide_eq_true_eq, bne_iff_ne] at hb
  split_ifs at hb with hmark hpoint
  · cases hb
    rw [numberBytes_exponent_concat]
    exact .exponentMark h hplaces hmark
  · cases hb
    obtain ⟨rfl, other⟩ := hpoint
    obtain ⟨rfl, rfl⟩ := without other
    rw [numberBytes_fraction_concat]
    exact .point h

/-- A byte that is no digit and goes on with a number is a point, the mark of an exponent
or a sign behind the mark. -/
theorem extend_other (hdigit : digit? b = none) (h : n.Behind bytes)
    (hb : n.extend? b = some longer) : longer.Behind (bytes ++ [b]) := by
  rw [extend?, hdigit] at hb
  have zero : IsWhole [0].reverse := isWhole_singleton (by decide)
  have noPlaces : SpellsFraction [].reverse [] := .none
  cases h with
  | sign | point | exponentSign | exponent => cases hb
  | zero => exact extend_mantissa zero noPlaces (fun _ => ⟨rfl, rfl⟩) hb
  | whole h _ => exact extend_mantissa h noPlaces (fun _ => ⟨rfl, rfl⟩) hb
  | fraction h hfraction => exact extend_mantissa h (.some hfraction) (absurd rfl) hb
  | exponentMark h hfraction hmark =>
      rw [numberBytes_exponent_concat]
      simp only at hb
      split_ifs at hb with hplus hminus
      · cases hb
        subst hplus
        exact .exponentSign h hfraction hmark .plus
      · cases hb
        subst hminus
        exact .exponentSign h hfraction hmark .minus

/-- What goes on with a number lies behind the longer one. -/
theorem extend (h : n.Behind bytes) (hb : n.extend? b = some longer) :
    longer.Behind (bytes ++ [b]) := by
  cases hdigit : digit? b with
  | some d =>
      obtain ⟨hd, rfl⟩ := digit?_eq_some hdigit
      exact h.extend_digit hd hb
  | none => exact h.extend_other hdigit hb

end PartialNumeral.Behind

/-! ## Strings -/

/-- The bytes of an escape sequence that has begun. -/
inductive Escape.Behind : Escape → List UInt8 → Prop
  | outside : Behind .outside []
  | backslash : Behind .backslash [0x5C]
  | unit {taken : List UInt8} (short : taken.length ≤ 3) :
      Behind (.unit taken) (0x5C :: 0x75 :: taken.reverse)

/-- The parts of a string with one more behind them. -/
theorem SpellsFragments.concat {fragments : List Fragment} {fragment : Fragment}
    {bytes rest : List UInt8} (h : SpellsFragments fragments bytes) (hlast : fragment.Spells rest) :
    SpellsFragments (fragments ++ [fragment]) (bytes ++ rest) := by
  induction h with
  | nil => simpa only [List.append_nil, List.nil_append] using SpellsFragments.cons hlast .nil
  | cons head _ ih =>
      rw [List.append_assoc]
      exact .cons head ih

/-! ## Containers -/

/-- A value with a blank behind it. -/
theorem Tree.Spells.concat_blank {tree : Tree} {bytes : List UInt8} (h : tree.Spells bytes)
    {b : UInt8} (hb : isBlank b = true) : tree.Spells (bytes ++ [b]) :=
  .padded .nil h (Blank.nil.concat hb)

/-- Items with a blank behind them. -/
theorem SpellsItems.concat_blank {items : List Tree} {bytes : List UInt8}
    (h : SpellsItems items bytes) {b : UInt8} (hb : isBlank b = true) :
    SpellsItems items (bytes ++ [b]) :=
  match h with
  | .last h => .last (h.concat_blank hb)
  | .more h tail => by
      rw [List.append_assoc]
      exact .more h (tail.concat_blank hb)

/-- Items with one more behind them. -/
theorem SpellsItems.concat {items : List Tree} {item : Tree} {bytes rest : List UInt8}
    (h : SpellsItems items bytes) (hlast : item.Spells rest) :
    SpellsItems (items ++ [item]) (bytes ++ 0x2C :: rest) :=
  match h with
  | .last h => .more h (.last hlast)
  | .more h tail => by
      rw [List.append_assoc]
      exact .more h (tail.concat hlast)

/-- Members with a blank behind them. -/
theorem SpellsMembers.concat_blank {members : List (RawString × Tree)} {bytes : List UInt8}
    (h : SpellsMembers members bytes) {b : UInt8} (hb : isBlank b = true) :
    SpellsMembers members (bytes ++ [b]) :=
  match h with
  | .last (.mk hbefore hkey hafter hcontent) => by
      rw [List.append_assoc]
      exact .last (.mk hbefore hkey hafter (hcontent.concat_blank hb))
  | .more h tail => by
      rw [List.append_assoc]
      exact .more h (tail.concat_blank hb)

/-- Members with one more behind them. -/
theorem SpellsMembers.concat {members : List (RawString × Tree)} {member : RawString × Tree}
    {bytes rest : List UInt8} (h : SpellsMembers members bytes) (hlast : SpellsMember member rest) :
    SpellsMembers (members ++ [member]) (bytes ++ 0x2C :: rest) :=
  match h with
  | .last h => .more h (.last hlast)
  | .more h tail => by
      rw [List.append_assoc]
      exact .more h (tail.concat hlast)

/-- The bytes of an array that lie behind the reader where an item begins. -/
inductive OpenArray : List Tree → List UInt8 → Prop
  | first {blanks : List UInt8} (h : Blank blanks) : OpenArray [] (0x5B :: blanks)
  | next {earlier : List Tree} {bytes : List UInt8} (h : SpellsItems earlier.reverse bytes) :
      OpenArray earlier (0x5B :: (bytes ++ [0x2C]))

/-- The bytes of an object that lie behind the reader where a key begins. -/
inductive OpenObject : List (RawString × Tree) → List UInt8 → Prop
  | first {blanks : List UInt8} (h : Blank blanks) : OpenObject [] (0x7B :: blanks)
  | next {earlier : List (RawString × Tree)} {bytes blanks : List UInt8}
      (h : SpellsMembers earlier.reverse bytes) (blank : Blank blanks) :
      OpenObject earlier (0x7B :: (bytes ++ 0x2C :: blanks))

/-- An item that is read is one more in the array. -/
theorem OpenArray.concat {earlier : List Tree} {item : Tree} {opening bytes : List UInt8}
    (h : OpenArray earlier opening) (hitem : item.Spells bytes) :
    ∃ rest, opening ++ bytes = 0x5B :: rest ∧ SpellsItems (item :: earlier).reverse rest := by
  rw [List.reverse_cons]
  cases h with
  | @first blanks h =>
      refine ⟨blanks ++ bytes ++ [], by simp, ?_⟩
      exact .last (.padded h hitem .nil)
  | @next _ before h => exact ⟨before ++ 0x2C :: bytes, by simp, h.concat hitem⟩

/-- A member that is read is one more in the object. -/
theorem OpenObject.concat {earlier : List (RawString × Tree)} {key : RawString} {content : Tree}
    {opening keyBytes after bytes : List UInt8} (h : OpenObject earlier opening)
    (hkey : key.Spells keyBytes) (hafter : Blank after) (hcontent : content.Spells bytes) :
    ∃ rest, opening ++ keyBytes ++ after ++ 0x3A :: bytes = 0x7B :: rest ∧
      SpellsMembers ((key, content) :: earlier).reverse rest := by
  rw [List.reverse_cons]
  cases h with
  | @first blanks h =>
      exact ⟨blanks ++ keyBytes ++ after ++ 0x3A :: bytes, rfl, .last (.mk h hkey hafter hcontent)⟩
  | @next _ before blanks h blank =>
      exact ⟨before ++ 0x2C :: (blanks ++ keyBytes ++ after ++ 0x3A :: bytes), by simp,
        h.concat (.mk blank hkey hafter hcontent)⟩

/-- A blank in front of a key changes nothing. -/
theorem OpenObject.concat_blank {earlier : List (RawString × Tree)} {opening : List UInt8}
    (h : OpenObject earlier opening) {b : UInt8} (hb : isBlank b = true) :
    OpenObject earlier (opening ++ [b]) := by
  cases h with
  | first h => exact .first (h.concat hb)
  | next h blank =>
      simpa using OpenObject.next h (blank.concat hb)

end NwScript.Json
