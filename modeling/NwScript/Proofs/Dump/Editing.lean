/-
# Edits of a dump that make no difference

A dump can be rewritten without another script in it: the members of an object that is
read as a record can stand in any order, with others among them that are no fields and
without those that hold the default of their field; and a set of siblings can list its
members in any order and more than once. Such an edit may be made anywhere in the dump
where a record or a set of siblings is read, and after any number of them the same
script is read and written.
-/

import Mathlib
import NwScript.Proofs.Dump.RoundTrip
import NwScript.Proofs.Json.Editing

namespace NwScript

/-- A set of siblings is known by its members. -/
theorem SiblingSet.ofList_eq_of_mem_iff {xs ys : List VarId} (h : ∀ v, v ∈ xs ↔ v ∈ ys) :
    ofList xs = ofList ys := by
  have hmem (v : VarId) : v ∈ (ofList xs).toList ↔ v ∈ (ofList ys).toList := by
    rw [mem_toList_ofList, mem_toList_ofList, h]
  have nodup (s : SiblingSet) : s.toList.Nodup := by
    refine s.ascending.imp ?_
    rintro v _ hlt rfl
    exact UInt64.lt_irrefl _ hlt
  have perm : (ofList xs).toList.Perm (ofList ys).toList :=
    (List.perm_ext_iff_of_nodup (nodup _) (nodup _)).mpr hmem
  refine eq_of_toList_eq (perm.eq_of_pairwise ?_ (ofList xs).ascending (ofList ys).ascending)
  intro v w _ _ hlt hgt
  exact absurd hgt (UInt64.lt_asymm hlt)

namespace Dump

open Json (Tree RawString Codec Fields)

/-- One edit of a value that a codec reads, made at the value itself or somewhere
within it. -/
inductive Edit : {α : Type} → Codec α → Tree → Tree → Prop
  /-- The members of the object of a record are put into another order. -/
  | reorder {α : Type} {types : List Type} {fields : Fields types}
      {contents : α → Json.Contents types} {make : Json.Contents types → α}
      {members others : List (RawString × Tree)} (perm : members.Perm others) :
      Edit (.record fields contents make) (.object members .closed) (.object others .closed)
  /-- A member is added whose key is a text and names no field, with any value. -/
  | add {α : Type} {types : List Type} {fields : Fields types}
      {contents : α → Json.Contents types} {make : Json.Contents types → α}
      {before after : List (RawString × Tree)} {key : RawString} {name : String} {value : Tree}
      {bytes : List UInt8} (hkey : key.decode = .ok name)
      (unknown : name ∉ fields.names) (wellFormed : value.Spells bytes) :
      Edit (.record fields contents make) (.object (before ++ after) .closed)
        (.object (before ++ (key, value) :: after) .closed)
  /-- A member is dropped that holds the default of its field. -/
  | drop {α : Type} {types : List Type} {fields : Fields types}
      {contents : α → Json.Contents types} {make : Json.Contents types → α}
      {before after : List (RawString × Tree)} {key : RawString} {name : String} {value : Tree}
      (hkey : key.decode = .ok name) (default : Fields.HoldsDefault name value fields) :
      Edit (.record fields contents make) (.object (before ++ (key, value) :: after) .closed)
        (.object (before ++ after) .closed)
  /-- The entries of a set of siblings are put into another order or repeated. -/
  | siblings {items others : List Tree} (same : ∀ item, item ∈ items ↔ item ∈ others) :
      Edit siblingSet (.array items .closed) (.array others .closed)
  /-- An edit is made in a field of a record. -/
  | inMember {α β : Type} {types : List Type} {fields : Fields types}
      {contents : α → Json.Contents types} {make : Json.Contents types → α}
      {before after : List (RawString × Tree)} {key : RawString} {name : String}
      {codec : Codec β} {value value' : Tree} (hkey : key.decode = .ok name)
      (field : Fields.HasField name codec fields) (edit : Edit codec value value') :
      Edit (.record fields contents make) (.object (before ++ (key, value) :: after) .closed)
        (.object (before ++ (key, value') :: after) .closed)
  /-- An edit is made in a field of a record that is written as an array. -/
  | inField {α β : Type} {types : List Type} {fields : Fields types}
      {contents : α → Json.Contents types} {make : Json.Contents types → α}
      {before after : List Tree} {codec : Codec β} {item item' : Tree}
      (field : Fields.FieldAt before.length codec fields) (edit : Edit codec item item') :
      Edit (.record fields contents make) (.array (before ++ item :: after) .closed)
        (.array (before ++ item' :: after) .closed)
  /-- An edit is made in an item of a list. -/
  | inItem {α : Type} {codec : Codec α} {before after : List Tree} {item item' : Tree}
      (edit : Edit codec item item') :
      Edit codec.list (.array (before ++ item :: after) .closed)
        (.array (before ++ item' :: after) .closed)
  /-- An edit is made in a value in another guise. -/
  | inGuise {α β : Type} {codec : Codec α} {there : β → α} {back : α → β} {value value' : Tree}
      (edit : Edit codec value value') : Edit (codec.via there back) value value'

/-- An edit makes no difference to what is read. -/
theorem decode_of_edit {α : Type} {codec : Codec α} {value value' : Tree}
    (edit : Edit codec value value') :
    ∀ x, codec.decode value = .ok x → codec.decode value' = .ok x := by
  induction edit with
  | reorder perm =>
      intro x h
      obtain ⟨found, hfound, rfl⟩ := map_eq_ok_iff.mp h
      exact map_eq_ok_iff.mpr ⟨found, Fields.decodeMembers_reordered perm hfound, rfl⟩
  | add hkey unknown wellFormed =>
      intro x h
      obtain ⟨found, hfound, rfl⟩ := map_eq_ok_iff.mp h
      exact map_eq_ok_iff.mpr
        ⟨found, Fields.decodeMembers_added hkey unknown wellFormed.skipFault?_eq_none hfound, rfl⟩
  | drop hkey default =>
      intro x h
      obtain ⟨found, hfound, rfl⟩ := map_eq_ok_iff.mp h
      exact map_eq_ok_iff.mpr ⟨found, Fields.decodeMembers_dropped hkey default hfound, rfl⟩
  | siblings same =>
      intro x h
      obtain ⟨xs, hxs, rfl⟩ := map_eq_ok_iff.mp h
      obtain ⟨ys, hys, hmem⟩ := Codec.decode_list_of_mem_iff same hxs
      exact map_eq_ok_iff.mpr ⟨ys, hys, (SiblingSet.ofList_eq_of_mem_iff hmem).symm⟩
  | inMember hkey field _ ih =>
      intro x h
      obtain ⟨found, hfound, rfl⟩ := map_eq_ok_iff.mp h
      exact map_eq_ok_iff.mpr ⟨found, Fields.decodeMembers_changed hkey field ih hfound, rfl⟩
  | inField field _ ih =>
      intro x h
      obtain ⟨found, hfound, rfl⟩ := map_eq_ok_iff.mp h
      exact map_eq_ok_iff.mpr ⟨found, Fields.decodeItems_of_fieldAt field ih rfl hfound, rfl⟩
  | inItem _ ih => exact fun x h => Codec.decode_list_changed ih h
  | inGuise _ ih =>
      intro x h
      obtain ⟨y, hy, rfl⟩ := map_eq_ok_iff.mp h
      exact map_eq_ok_iff.mpr ⟨y, ih y hy, rfl⟩

/-- Nor do any number of edits. -/
theorem decode_of_edits {α : Type} {codec : Codec α} {value value' : Tree}
    (edits : Relation.ReflTransGen (Edit codec) value value') :
    ∀ x, codec.decode value = .ok x → codec.decode value' = .ok x := by
  induction edits with
  | refl => exact fun x h => h
  | tail _ edit ih => exact fun x h => decode_of_edit edit x (ih x h)

section Texts

/-- A text comes from another by edits of what they spell. -/
def Edited (dump edited : String) : Prop :=
  ∃ before after : Tree, before.Spells (Text.utf8Bytes dump) ∧
    after.Spells (Text.utf8Bytes edited) ∧ Relation.ReflTransGen (Edit script) before after

/-- Whatever script is in a text, any edits of the text leave it there: the edited text
is accepted as the same script and rendered alike. -/
theorem edited_dump_holds_script {dump edited : String} {s : Script}
    (accepted : readScript (Text.utf8Bytes dump) = .ok s) (edits : Edited dump edited) :
    Holds edited s ∧ ∀ options, presentDump edited options = presentDump dump options := by
  obtain ⟨before, after, hbefore, hafter, steps⟩ := edits
  obtain ⟨tree, htree, hdecode⟩ := readScript_eq_ok_iff.mp accepted
  obtain rfl : before = tree := hbefore.unique htree
  have hkept : script.decode after = .ok s := decode_of_edits steps s hdecode
  have holds := holds_of_readScript (readScript_eq_ok_iff.mpr ⟨after, hafter, hkept⟩)
  refine ⟨holds, fun options => ?_⟩
  rw [holds.presents, (holds_of_readScript accepted).presents]

/-- A key that is written without escapes. -/
def plainKey (name : String) : RawString := ⟨(Text.utf8Bytes name).map .byte, none⟩

/-- A number of one digit. -/
def digit (d : Nat) : Tree := .number { negative := false, whole := [d] }

/-- The number of a variable. -/
def idMember : RawString × Tree := (plainKey "id", digit 1)

/-- The type of a variable. -/
def typeMember : RawString × Tree := (plainKey "ty", .string (plainKey "Int"))

/-- The siblings of a variable, as they are listed. -/
def siblingsMember (places : List Nat) : RawString × Tree :=
  (plainKey "siblings", .array (places.map digit) .closed)

/-- The size of a script, as it is by default. -/
def sizeMember : RawString × Tree := (plainKey "size", digit 0)

/-- A member that is no field, with a number in it that no type can hold. -/
def otherMember : RawString × Tree :=
  (plainKey "x", .array [.number ⟨false, [1], [], some (false, [9, 9, 9])⟩] .closed)

/-- The tree of a dump with one variable, with other members in front of those that
lead to it. -/
def variableDump (others sizes members : List (RawString × Tree)) : Tree :=
  .object (others ++ [(plainKey "analysis",
    .object (sizes ++ [(plainKey "variables",
      .array ([] ++ [.object members .closed]) .closed)]) .closed)]) .closed

/-- An edit of the variable is an edit of the dump. -/
theorem edit_variableDump {others sizes members edited : List (RawString × Tree)}
    (edit : Edit variableCodec (.object members .closed) (.object edited .closed)) :
    Edit script (variableDump others sizes members) (variableDump others sizes edited) := by
  refine .inMember (rfl : (plainKey "analysis").decode = .ok "analysis")
    (.there (by decide) (.here rfl)) ?_
  refine .inMember (rfl : (plainKey "variables").decode = .ok "variables")
    (.there (by decide) <| .there (by decide) <| .there (by decide) <| .there (by decide) <|
      .here rfl) ?_
  exact .inGuise (.inItem edit)

/-- A dump of a script with one variable. -/
def variableText : String :=
  "\x7b\"analysis\":\x7b\"size\":0,\"variables\":[\x7b\"id\":1,\"ty\":\"Int\"," ++
    "\"siblings\":[2,0]\x7d]\x7d\x7d"

/-- The dump with a member that is no field and without a default, with the members of
the variable in another order and with a sibling listed twice. -/
def editedText : String :=
  "\x7b\"x\":[1e999],\"analysis\":\x7b\"variables\":[\x7b\"siblings\":[0,2,0]," ++
    "\"ty\":\"Int\",\"id\":1\x7d]\x7d\x7d"

/-- The second text comes from the first by four edits. -/
theorem edited_variableText : Edited variableText editedText := by
  have spelled : otherMember.2.Spells [0x5B, 0x31, 0x65, 0x39, 0x39, 0x39, 0x5D] :=
    .array <| .last <| .number <|
      .mk ⟨⟨by decide, by decide⟩, by decide⟩ .none <| .some (.inl rfl) .none ⟨by decide, by decide⟩
  have added (members : List (RawString × Tree)) : Edit script (.object ([] ++ members) .closed)
      (.object ([] ++ otherMember :: members) .closed) :=
    .add (rfl : (plainKey "x").decode = .ok "x") (by decide) spelled
  have dropped (members : List (RawString × Tree)) :
      Edit analysis (.object ([] ++ sizeMember :: members) .closed)
        (.object ([] ++ members) .closed) :=
    .drop (rfl : (plainKey "size").decode = .ok "size") (.here rfl rfl rfl)
  have reordered : Edit variableCodec
      (.object [idMember, typeMember, siblingsMember [2, 0]] .closed)
      (.object [siblingsMember [2, 0], typeMember, idMember] .closed) :=
    .reorder (List.reverse_perm [idMember, typeMember, siblingsMember [2, 0]]).symm
  have repeated (members : List (RawString × Tree)) :
      Edit variableCodec (.object ([] ++ siblingsMember [2, 0] :: members) .closed)
        (.object ([] ++ siblingsMember [0, 2, 0] :: members) .closed) := by
    refine .inMember (rfl : (plainKey "siblings").decode = .ok "siblings")
      (.there (by decide) <| .there (by decide) <| .there (by decide) <| .here rfl) ?_
    exact .siblings fun item => by simp [or_comm]
  have within : Edit script
      (variableDump [otherMember] [sizeMember] [idMember, typeMember, siblingsMember [2, 0]])
      (variableDump [otherMember] [] [idMember, typeMember, siblingsMember [2, 0]]) :=
    .inMember (rfl : (plainKey "analysis").decode = .ok "analysis")
      (.there (by decide) (.here rfl)) (dropped _)
  refine ⟨variableDump [] [sizeMember] [idMember, typeMember, siblingsMember [2, 0]],
    variableDump [otherMember] [] [siblingsMember [0, 2, 0], typeMember, idMember],
    Json.spells_of_read rfl rfl, Json.spells_of_read rfl rfl, ?_⟩
  exact .tail (.tail (.tail (.single (added _)) within) (edit_variableDump reordered))
    (edit_variableDump (repeated _))

/-- The script in the first text is in the second. -/
theorem edited_dump_holds_script_variableText :
    ∃ s, readScript (Text.utf8Bytes variableText) = .ok s ∧ Edited variableText editedText ∧
      Holds editedText s ∧
      ∀ options, presentDump editedText options = presentDump variableText options := by
  have accepted : readScript (Text.utf8Bytes variableText) =
      .ok { analysis := { vars := #[
        { id := 1, type := .int, siblings := .ofList [⟨0⟩, ⟨2⟩] }] } } := rfl
  exact ⟨_, accepted, edited_variableText, edited_dump_holds_script accepted edited_variableText⟩

end Texts

end Dump

end NwScript
