/-
# The spellings of JSON values

One value can be written in many ways: with blanks between its parts, with
escapes in its strings, with different signs in front of an exponent. Here the
grammar of JSON says which byte sequences spell a given tree, and which value a
tree denotes. Neither knows anything of the reader or the writer; that the one
takes every spelling for the tree it spells, and that the other writes spellings
of a value, are theorems about both.
-/

import NwScript.Json.Codec
import NwScript.Json.Reader

namespace NwScript.Json

/-- A run of blanks. -/
def Blank (bytes : List UInt8) : Prop := ∀ b ∈ bytes, isBlank b = true

/-- No blank at all. -/
theorem Blank.nil : Blank [] := nofun

/-- The byte of a decimal digit. -/
def digitByte (d : Nat) : UInt8 := UInt8.ofNat (0x30 + d)

/-- The byte of a decimal digit has its value. -/
theorem digit?_digitByte : ∀ {d : Nat}, d < 10 → digit? (digitByte d) = some d := by
  decide

/-- The bytes of a row of digits. -/
def digitBytes (digits : List Nat) : List UInt8 := digits.map digitByte

/-- A row of decimal digits, with at least one of them. -/
structure IsDigits (digits : List Nat) : Prop where
  nonempty : digits ≠ []
  small : ∀ d ∈ digits, d < 10

/-- The digits before the point: no other one follows a leading zero. -/
structure IsWhole (digits : List Nat) : Prop extends IsDigits digits where
  leading : digits.head? = some 0 → digits = [0]

/-- A fraction: a point and digits, or nothing at all. -/
inductive SpellsFraction : List Nat → List UInt8 → Prop
  | none : SpellsFraction [] []
  | some {digits : List Nat} (h : IsDigits digits) :
      SpellsFraction digits (0x2E :: digitBytes digits)

/-- The sign in front of the digits of an exponent. -/
inductive SpellsExponentSign : Bool → List UInt8 → Prop
  | none : SpellsExponentSign false []
  | plus : SpellsExponentSign false [0x2B]
  | minus : SpellsExponentSign true [0x2D]

/-- An exponent: a mark in either case, a sign and digits, or nothing at all. -/
inductive SpellsExponent : Option (Bool × List Nat) → List UInt8 → Prop
  | none : SpellsExponent .none []
  | some {mark : UInt8} {negative : Bool} {digits : List Nat} {sign : List UInt8}
      (hmark : mark = 0x65 ∨ mark = 0x45) (hsign : SpellsExponentSign negative sign)
      (h : IsDigits digits) :
      SpellsExponent (.some (negative, digits)) (mark :: sign ++ digitBytes digits)

/-- The spellings of a number. -/
inductive Numeral.Spells : Numeral → List UInt8 → Prop
  | mk {negative : Bool} {whole fraction : List Nat} {exponent : Option (Bool × List Nat)}
      {fractionBytes exponentBytes : List UInt8} (hwhole : IsWhole whole)
      (hfraction : SpellsFraction fraction fractionBytes)
      (hexponent : SpellsExponent exponent exponentBytes) :
      Numeral.Spells ⟨negative, whole, fraction, exponent⟩
        ((if negative then [0x2D] else []) ++ digitBytes whole ++ fractionBytes ++ exponentBytes)

/-- The spellings of a part of a string: the byte itself, unless it ends the
string, begins an escape or is a control character; a short escape; or a unit in
four hexadecimal digits. -/
inductive Fragment.Spells : Fragment → List UInt8 → Prop
  | plain {b : UInt8} (hcontrol : 0x20 ≤ b) (hquote : b ≠ 0x22) (hescape : b ≠ 0x5C) :
      Fragment.Spells (.byte b) [b]
  | short {letter b : UInt8} (h : shortEscape? letter = some b) :
      Fragment.Spells (.byte b) [0x5C, letter]
  | unit {a b c d : UInt8} {digits : List Nat} (h : [a, b, c, d].mapM hexDigit? = some digits) :
      Fragment.Spells (.unit (digits.foldl (fun n digit => n * 16 + digit) 0))
        [0x5C, 0x75, a, b, c, d]

/-- The spellings of the parts of a string, one behind the other. -/
inductive SpellsFragments : List Fragment → List UInt8 → Prop
  | nil : SpellsFragments [] []
  | cons {fragment : Fragment} {fragments : List Fragment} {bytes rest : List UInt8}
      (head : fragment.Spells bytes) (tail : SpellsFragments fragments rest) :
      SpellsFragments (fragment :: fragments) (bytes ++ rest)

/-- The spellings of a string, between its quotes. -/
inductive RawString.Spells : RawString → List UInt8 → Prop
  | mk {fragments : List Fragment} {bytes : List UInt8} (h : SpellsFragments fragments bytes) :
      RawString.Spells ⟨fragments, none⟩ (0x22 :: (bytes ++ [0x22]))

/-- A string that is spelled has its end. -/
theorem RawString.Spells.complete {s : RawString} {bytes : List UInt8} (h : s.Spells bytes) :
    ⟨s.fragments, none⟩ = s := by
  cases h
  rfl

mutual

/-- The spellings of a value, with any blanks around it. -/
inductive Tree.Spells : Tree → List UInt8 → Prop
  | nullWord : Tree.Spells .null [0x6E, 0x75, 0x6C, 0x6C]
  | trueWord : Tree.Spells (.bool true) [0x74, 0x72, 0x75, 0x65]
  | falseWord : Tree.Spells (.bool false) [0x66, 0x61, 0x6C, 0x73, 0x65]
  | number {n : Numeral} {bytes : List UInt8} (h : n.Spells bytes) :
      Tree.Spells (.number n) bytes
  | string {s : RawString} {bytes : List UInt8} (h : s.Spells bytes) :
      Tree.Spells (.string s) bytes
  | emptyArray {inside : List UInt8} (h : Blank inside) :
      Tree.Spells (.array [] .closed) (0x5B :: (inside ++ [0x5D]))
  | array {items : List Tree} {bytes : List UInt8} (h : SpellsItems items bytes) :
      Tree.Spells (.array items .closed) (0x5B :: (bytes ++ [0x5D]))
  | emptyObject {inside : List UInt8} (h : Blank inside) :
      Tree.Spells (.object [] .closed) (0x7B :: (inside ++ [0x7D]))
  | object {members : List (RawString × Tree)} {bytes : List UInt8}
      (h : SpellsMembers members bytes) :
      Tree.Spells (.object members .closed) (0x7B :: (bytes ++ [0x7D]))
  | padded {tree : Tree} {before bytes after : List UInt8} (hbefore : Blank before)
      (h : tree.Spells bytes) (hafter : Blank after) :
      Tree.Spells tree (before ++ bytes ++ after)

/-- The spellings of the items of an array that has any. -/
inductive SpellsItems : List Tree → List UInt8 → Prop
  | last {item : Tree} {bytes : List UInt8} (h : item.Spells bytes) : SpellsItems [item] bytes
  | more {item : Tree} {items : List Tree} {bytes rest : List UInt8} (h : item.Spells bytes)
      (tail : SpellsItems items rest) : SpellsItems (item :: items) (bytes ++ 0x2C :: rest)

/-- The spellings of a member of an object. -/
inductive SpellsMember : RawString × Tree → List UInt8 → Prop
  | mk {key : RawString} {content : Tree} {before bytes after rest : List UInt8}
      (hbefore : Blank before) (hkey : key.Spells bytes) (hafter : Blank after)
      (hcontent : content.Spells rest) :
      SpellsMember (key, content) (before ++ bytes ++ after ++ 0x3A :: rest)

/-- The spellings of the members of an object that has any. -/
inductive SpellsMembers : List (RawString × Tree) → List UInt8 → Prop
  | last {member : RawString × Tree} {bytes : List UInt8} (h : SpellsMember member bytes) :
      SpellsMembers [member] bytes
  | more {member : RawString × Tree} {members : List (RawString × Tree)}
      {bytes rest : List UInt8} (h : SpellsMember member bytes)
      (tail : SpellsMembers members rest) :
      SpellsMembers (member :: members) (bytes ++ 0x2C :: rest)

end

/-- Something begins, behind blanks, that is not the end of an array. -/
def BeginsItem (bytes : List UInt8) : Prop :=
  ∃ before b rest, Blank before ∧ bytes = before ++ b :: rest ∧ isBlank b = false ∧ b ≠ 0x5D

/-- What begins still begins with blanks in front of it and anything behind it. -/
theorem BeginsItem.padded {before bytes : List UInt8} (hbefore : Blank before)
    (h : BeginsItem bytes) (after : List UInt8) : BeginsItem (before ++ bytes ++ after) := by
  obtain ⟨inner, b, rest, blank, rfl, hb⟩ := h
  refine ⟨before ++ inner, b, rest ++ after, fun c hc => ?_, by simp, hb⟩
  exact (List.mem_append.mp hc).elim (hbefore c) (blank c)

/-- A number begins with a sign or a digit. -/
theorem Numeral.Spells.beginsItem {n : Numeral} {bytes : List UInt8} (h : n.Spells bytes) :
    BeginsItem bytes := by
  obtain ⟨hwhole, -, -⟩ := h
  rename_i negative whole fraction exponent fractionBytes exponentBytes
  rcases whole with _ | ⟨d, whole⟩
  · exact absurd rfl hwhole.nonempty
  · cases negative with
    | true => exact ⟨[], _, _, .nil, rfl, rfl, by decide⟩
    | false =>
        have digit : ∀ d < 10, isBlank (digitByte d) = false ∧ digitByte d ≠ 0x5D := by decide
        exact ⟨[], _, _, .nil, rfl, digit d (hwhole.small d List.mem_cons_self)⟩

/-- No value begins with the end of an array. -/
theorem Tree.Spells.beginsItem {tree : Tree} {bytes : List UInt8} :
    tree.Spells bytes → BeginsItem bytes
  | .padded hbefore h _ => h.beginsItem.padded hbefore _
  | .number h => h.beginsItem
  | .string h => by
      obtain ⟨-⟩ := h
      exact ⟨[], _, _, .nil, rfl, rfl, by decide⟩
  | .nullWord | .trueWord | .falseWord | .emptyArray _ | .array _ | .emptyObject _
  | .object _ => ⟨[], _, _, .nil, rfl, rfl, by decide⟩

/-- Nor does a row of values. -/
theorem SpellsItems.beginsItem {items : List Tree} {bytes : List UInt8}
    (h : SpellsItems items bytes) : BeginsItem bytes := by
  cases h with
  | last h => exact h.beginsItem
  | more h _ => simpa using h.beginsItem.padded .nil _

mutual

/-- The value that a tree without faults denotes, if its numbers are integers. -/
inductive Tree.Denotes : Tree → Value → Prop
  | null : Tree.Denotes .null .null
  | bool (value : Bool) : Tree.Denotes (.bool value) (.bool value)
  | number {n : Numeral} {value : Int} (h : n.integer? = some value) :
      Tree.Denotes (.number n) (.number value)
  | string {s : RawString} {text : String} (h : s.decode = .ok text) :
      Tree.Denotes (.string s) (.string text)
  | array {items : List Tree} {values : List Value} (h : ItemsDenote items values) :
      Tree.Denotes (.array items .closed) (.array values)
  | object {members : List (RawString × Tree)} {fields : List (String × Value)}
      (h : MembersDenote members fields) :
      Tree.Denotes (.object members .closed) (.object fields)

/-- The values that the items of an array denote. -/
inductive ItemsDenote : List Tree → List Value → Prop
  | nil : ItemsDenote [] []
  | cons {item : Tree} {items : List Tree} {value : Value} {values : List Value}
      (head : item.Denotes value) (tail : ItemsDenote items values) :
      ItemsDenote (item :: items) (value :: values)

/-- The members that the members of an object denote. -/
inductive MembersDenote : List (RawString × Tree) → List (String × Value) → Prop
  | nil : MembersDenote [] []
  | cons {key : RawString} {name : String} {content : Tree} {value : Value}
      {members : List (RawString × Tree)} {fields : List (String × Value)}
      (hkey : key.decode = .ok name) (head : content.Denotes value)
      (tail : MembersDenote members fields) :
      MembersDenote ((key, content) :: members) ((name, value) :: fields)

end

/-- The spellings of a value: those of the trees that denote it. -/
def Value.SpelledBy (value : Value) (bytes : List UInt8) : Prop :=
  ∃ tree : Tree, tree.Spells bytes ∧ tree.Denotes value

end NwScript.Json
