/-
# Codecs that read what they write

A codec is lawful if it reads every tree that denotes what it writes for a value
as that value again. The law passes from the parts of a type to the type: from
items to arrays, from fields to records, from contents to cases. A type that is
given by its cases needs no more than that every case is found by its name.
-/

import NwScript.Json.Record
import NwScript.Json.Variant
import NwScript.Proofs.Json.Spelling
import NwScript.Proofs.Outcome

namespace NwScript.Json

/-- The codec reads what it writes, however that is spelled. -/
def Codec.Lawful {α : Type} (codec : Codec α) : Prop :=
  ∀ (x : α) (tree : Tree), tree.Denotes (codec.encode x) → codec.decode tree = .ok x

/-- Items that each denote what is written for a value are read as the values. -/
theorem mapM_decode_of_denote {α : Type} {codec : Codec α} (lawful : codec.Lawful) {xs : List α}
    {items : List Tree} (h : ItemsDenote items (xs.map codec.encode)) :
    items.mapM codec.decode = .ok xs := by
  induction xs generalizing items with
  | nil =>
      cases h
      rfl
  | cons x rest ih =>
      cases h with
      | cons head tail => simp [lawful x _ head, ih tail, pure, Except.pure]

namespace Codec.Lawful

variable {α β : Type} {codec : Codec α}

/-- A guise that can be taken off again keeps the law. -/
theorem via (lawful : codec.Lawful) {there : β → α} {back : α → β}
    (inverse : ∀ x, back (there x) = x) : (codec.via there back).Lawful :=
  fun x tree denotes => map_eq_ok_iff.mpr ⟨there x, lawful (there x) tree denotes, inverse x⟩

theorem bool : Codec.bool.Lawful := by
  intro x tree denotes
  cases denotes
  rfl

theorem string : Codec.string.Lawful := by
  intro x tree denotes
  cases denotes with
  | string h => exact h

theorem integer {toInt : α → Int} {ofInt? : Int → Option α}
    (inverse : ∀ x, ofInt? (toInt x) = some x) : (Codec.integer toInt ofInt?).Lawful := by
  intro x tree denotes
  cases denotes with
  | number h => simp [Codec.integer, h, inverse]

theorem natural {bound : Nat} {toNat : α → Nat} {ofNat : Nat → α}
    (bounded : ∀ x, toNat x < bound) (inverse : ∀ x, ofNat (toNat x) = x) :
    (Codec.natural bound toNat ofNat).Lawful :=
  integer fun x => by simp [bounded, inverse]

theorem uint8 : Codec.uint8.Lawful := natural UInt8.toNat_lt_size fun _ => UInt8.ofNat_toNat

theorem uint32 : Codec.uint32.Lawful := natural UInt32.toNat_lt_size fun _ => UInt32.ofNat_toNat

theorem uint64 : Codec.uint64.Lawful := natural UInt64.toNat_lt_size fun _ => UInt64.ofNat_toNat

theorem int32 : Codec.int32.Lawful :=
  integer fun x => by rw [if_pos ⟨x.minValue_le_toInt, x.toInt_le⟩, Int32.ofInt_toInt]

/-- A value is told from a missing one if it is never written as nothing. -/
theorem optional (lawful : codec.Lawful) (never : ∀ x, codec.encode x ≠ .null) :
    codec.optional.Lawful := by
  intro x tree denotes
  cases x with
  | none =>
      cases denotes
      rfl
  | some x =>
      have denotes : tree.Denotes (codec.encode x) := denotes
      have there : codec.optional.decode tree = some <$> codec.decode tree := by
        cases tree with
        | null =>
            generalize written : codec.encode x = value at denotes
            cases denotes
            exact absurd written (never x)
        | _ => rfl
      rw [there]
      exact map_eq_ok_iff.mpr ⟨x, lawful x tree denotes, rfl⟩

theorem list (lawful : codec.Lawful) : codec.list.Lawful := by
  intro xs tree denotes
  cases denotes with
  | array h => simp [Codec.list, mapM_decode_of_denote lawful h, Close.fault?, pure, Except.pure]

theorem array (lawful : codec.Lawful) : codec.array.Lawful := lawful.list.via fun _ => rfl

end Codec.Lawful

/-! ## Records -/

namespace Fields

variable {types : List Type}

/-- Every field is read as it is written. -/
inductive Lawful : {types : List Type} → Fields types → Prop
  | nil : nil.Lawful
  | cons {α : Type} {types : List Type} {field : RecordField α} {rest : Fields types}
      (head : field.codec.Lawful) (tail : rest.Lawful) : (cons field rest).Lawful

/-- The names of the fields. -/
def names : {types : List Type} → Fields types → List String
  | _, nil => []
  | _, cons field rest => field.name :: rest.names

/-- Slots in which every content has been found. -/
def filled : {types : List Type} → Contents types → Slots types
  | [], () => ()
  | _ :: _, (x, contents) => (some x, filled contents)

/-- Take one member of an object. -/
def takeMember (fields : Fields types) (slots : Slots types) (member : RawString × Tree) :
    Decoded (Slots types) := do
  fields.put (← member.1.decode) member.2 slots

/-- A member is written for each field, under its name. -/
theorem map_fst_encode : {types : List Type} → (fields : Fields types) →
    (contents : Contents types) → (fields.encode contents).map Prod.fst = fields.names
  | _, nil, () => rfl
  | _, cons _ rest, (_, contents) => congrArg _ (rest.map_fst_encode contents)

/-- A field takes no member of another name. -/
theorem foldlM_takeMember_cons {α : Type} {field : RecordField α} {rest : Fields types}
    {members : List (RawString × Tree)} {named : List (String × Value)}
    (h : MembersDenote members named) (others : field.name ∉ named.map Prod.fst)
    (slot : Option α) (slots : Slots types) :
    members.foldlM (cons field rest).takeMember (slot, slots) =
      (fun taken => (slot, taken)) <$> members.foldlM rest.takeMember slots := by
  induction members generalizing named slots with
  | nil => rfl
  | cons member members ih =>
      cases h with
      | @cons key name content value _ named hkey head tail =>
          simp only [List.map_cons, List.mem_cons, not_or] at others
          have first : (cons field rest).takeMember (slot, slots) (key, content) =
              (fun taken => (slot, taken)) <$> rest.takeMember slots (key, content) := by
            simp only [takeMember, hkey, ok_bind, put, if_neg (Ne.symm others.1)]
            rfl
          simp only [List.foldlM_cons, first]
          cases rest.takeMember slots (key, content) with
          | error fault => rfl
          | ok taken => exact ih tail others.2 taken

/-- The members that are written for a record fill all of its slots. -/
theorem foldlM_takeMember_encode : {types : List Type} → {fields : Fields types} →
    fields.Lawful → fields.names.Nodup → {contents : Contents types} →
    {members : List (RawString × Tree)} → MembersDenote members (fields.encode contents) →
    members.foldlM fields.takeMember fields.none = .ok (filled contents)
  | _, nil, _, _, (), _, h => by
      cases h
      rfl
  | _, cons field rest, .cons lawfulHead lawfulTail, nodup, (x, contents), members, h => by
      rw [names, List.nodup_cons] at nodup
      cases h with
      | @cons key _ content _ members _ hkey head tail =>
          have decoded : field.codec.decode content = .ok x := lawfulHead x content head
          have first : (cons field rest).takeMember (cons field rest).none (key, content) =
              .ok (some x, rest.none) := by
            simp only [takeMember, hkey, ok_bind, none, put, if_true, decoded]
            rfl
          have others : field.name ∉ (rest.encode contents).map Prod.fst := by
            rw [rest.map_fst_encode]
            exact nodup.1
          rw [List.foldlM_cons, first, ok_bind, foldlM_takeMember_cons tail others,
            foldlM_takeMember_encode lawfulTail nodup.2 tail]
          rfl

/-- Where all slots are filled no default is needed. -/
theorem complete_filled : {types : List Type} → (fields : Fields types) →
    (contents : Contents types) → fields.complete (filled contents) = .ok contents
  | _, nil, () => rfl
  | _, cons _ rest, (x, contents) => by
      simp [complete, filled, rest.complete_filled contents, pure, Except.pure]

/-- A record is read from the members that are written for it. -/
theorem decodeMembers_encode {fields : Fields types} (lawful : fields.Lawful)
    (nodup : fields.names.Nodup) {contents : Contents types} {members : List (RawString × Tree)}
    (h : MembersDenote members (fields.encode contents)) :
    fields.decodeMembers members .closed = .ok contents := by
  have taken : members.foldlM fields.takeMember fields.none = .ok (filled contents) :=
    foldlM_takeMember_encode lawful nodup h
  have unfolded : fields.decodeMembers members .closed =
      members.foldlM fields.takeMember fields.none >>= fields.complete := rfl
  rw [unfolded, taken, ok_bind, complete_filled]

end Fields

/-- A record whose fields are lawful and have different names is lawful. -/
theorem Codec.Lawful.record {α : Type} {types : List Type} {fields : Fields types}
    {contents : α → Contents types} {make : Contents types → α} (lawful : fields.Lawful)
    (nodup : fields.names.Nodup) (inverse : ∀ x, make (contents x) = x) :
    (Codec.record fields contents make).Lawful := by
  intro x tree denotes
  cases denotes with
  | object h =>
      exact map_eq_ok_iff.mpr ⟨contents x, Fields.decodeMembers_encode lawful nodup h, inverse x⟩

namespace Fields

variable {types : List Type} {close : Close}

/-- The members of an object are read up to its bracket. -/
theorem fault?_of_decodeMembers {fields : Fields types} {members : List (RawString × Tree)}
    {found : Contents types} (h : fields.decodeMembers members close = .ok found) :
    close.fault? = .none := by
  obtain ⟨slots, -, hclose⟩ := bind_eq_ok_iff.mp h
  cases hfault : close.fault? with
  | none => rfl
  | some fault =>
      rw [hfault] at hclose
      cases hclose

/-- The items of an array are read up to its bracket. -/
theorem fault?_of_decodeItems : {types : List Type} → {fields : Fields types} →
    {items : List Tree} → {found : Contents types} →
    fields.decodeItems close items = .ok found → close.fault? = .none
  | _, nil, [], (), h => by
      cases hfault : close.fault? with
      | none => rfl
      | some fault =>
          rw [decodeItems, hfault] at h
          cases h
  | _, nil, _ :: _, (), h => nomatch h
  | _, cons field rest, [], found, h => by
      cases hfault : close.fault? with
      | none => rfl
      | some fault =>
          rw [decodeItems, hfault] at h
          cases h
  | _, cons field rest, item :: items, found, h => by
      rw [decodeItems] at h
      obtain ⟨x, -, hrest⟩ := bind_eq_ok_iff.mp h
      obtain ⟨others, hothers, -⟩ := bind_eq_ok_iff.mp hrest
      exact fault?_of_decodeItems hothers

end Fields

/-- A tree in which there is a record has no fault. -/
theorem Codec.skipFault?_of_decode_record {α : Type} {types : List Type} {fields : Fields types}
    {contents : α → Contents types} {make : Contents types → α} {tree : Tree} {x : α}
    (h : (Codec.record fields contents make).decode tree = .ok x) : tree.skipFault? = none := by
  cases tree with
  | object members close =>
      obtain ⟨found, hfound, -⟩ := map_eq_ok_iff.mp h
      exact Fields.fault?_of_decodeMembers hfound
  | array items close =>
      obtain ⟨found, hfound, -⟩ := map_eq_ok_iff.mp h
      exact Fields.fault?_of_decodeItems hfound
  | _ => cases h

/-! ## Cases -/

/-- A case is found by its name. -/
theorem Variant.find_eq {α : Type} {cases : List (Variant α)} {name : String}
    {variant : Variant α} (h : cases.find? (fun variant => variant.name == name) = some variant)
    (other? : Option α) : Variant.find cases other? name = .ok variant := by
  simp only [Variant.find, h]

/-- A value is written as the name of a case without content that stands for it, or
with that name before what is written for a content from which the case makes it. -/
inductive Variant.Writes {α : Type} (cases : List (Variant α)) (x : α) : Value → Prop
  | plain {name : String} {variant : Variant α}
      (found : cases.find? (fun variant => variant.name == name) = some variant)
      (reads : variant.decode none = .ok x) : Variant.Writes cases x (.string name)
  | holding {name : String} {value : Value} {variant : Variant α}
      (found : cases.find? (fun variant => variant.name == name) = some variant)
      (reads : ∀ content : Tree, content.Denotes value → variant.decode (some content) = .ok x) :
      Variant.Writes cases x (.object [(name, value)])

/-- A type whose cases are all found by what is written for them is lawful. -/
theorem Codec.Lawful.variants {α : Type} {encode : α → Value} {cases : List (Variant α)}
    (other? : Option α) (writes : ∀ x, Variant.Writes cases x (encode x)) :
    (Codec.variants encode cases other?).Lawful := by
  intro x tree denotes
  have denotes : tree.Denotes (encode x) := denotes
  have writes := writes x
  generalize encode x = value at denotes writes
  cases writes with
  | @plain name variant found reads =>
      cases denotes with
      | string h =>
          simp [Codec.variants, Variant.decodeAny, h, Variant.find_eq found, reads]
  | holding found reads =>
      cases denotes with
      | object h =>
          cases h with
          | cons hkey head tail =>
              cases tail
              simp [Codec.variants, Variant.decodeAny, hkey, Variant.find_eq found,
                reads _ head, Variant.closeFault?, pure, Except.pure]

/-- Among different names, that of a listed value is found with the value. -/
theorem find?_name_eq {α : Type} {all : List α} {name : α → String}
    (distinct : (all.map name).Nodup) {x : α} (h : x ∈ all) :
    all.find? (fun y => name y == name x) = some x := by
  induction all with
  | nil => cases h
  | cons y rest ih =>
      rw [List.map_cons, List.nodup_cons] at distinct
      rcases List.mem_cons.mp h with rfl | h
      · simp
      · have other : name y ≠ name x := fun same =>
          distinct.1 (same ▸ List.mem_map_of_mem h)
        rw [List.find?_cons_of_neg (by simpa using other), ih distinct.2 h]

/-- A type of cases without content is lawful if all of them are listed and no two
have the same name. -/
theorem Codec.Lawful.named {α : Type} {all : List α} {name : α → String} {other? : Option α}
    (complete : ∀ x, x ∈ all) (distinct : (all.map name).Nodup) :
    (Codec.named all name other?).Lawful := by
  refine .variants other? fun x => ?_
  have found : (all.map fun y => Variant.plain (name y) y).find?
      (fun variant => variant.name == name x) = some (Variant.plain (name x) x) := by
    rw [List.find?_map]
    exact congrArg _ (find?_name_eq distinct (complete x))
  exact .plain found rfl

end NwScript.Json
