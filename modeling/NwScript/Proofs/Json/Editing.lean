/-
# Edits of objects that make no difference

A record is read from an object member by member. Two members that are taken one
after the other may be taken the other way round; a member that is no field is taken
for nothing; and a member that holds the default of its field fills a slot that would
be filled without it. So objects that differ in such members or in the order of all
members are read as the same record, and so are those in which the content of a field
is written in another way.
-/

import Mathlib.Data.List.Perm.Basic
import NwScript.Proofs.Json.Codec

namespace NwScript.Json

namespace Fields

section Taking

variable {α : Type} {types : List Type} {field : RecordField α} {rest : Fields types}

/-- A member of another name is taken by another field. -/
theorem put_cons_of_ne {key : String} (h : key ≠ field.name) (content : Tree) (slot : Option α)
    (slots : Slots types) :
    (cons field rest).put key content (slot, slots) =
      (fun taken => (slot, taken)) <$> rest.put key content slots := by
  rw [put.eq_def]
  simp only [if_neg h, map_eq_pure_bind]

/-- A member of its name is taken by the first field if the slot is free. -/
theorem put_cons_self (content : Tree) (slot : Option α) (slots : Slots types) :
    (cons field rest).put field.name content (slot, slots) =
      match slot with
      | some _ => .error .mistyped
      | .none => (fun x => (some x, slots)) <$> field.codec.decode content := by
  rw [put.eq_def]
  cases slot with
  | none => simp only [if_true, map_eq_pure_bind]
  | some x => simp only [if_true]

/-- A member is taken by the first field if it has its name and the slot is free, and
by another field else. -/
theorem put_cons_eq_ok_iff {key : String} {content : Tree} {slot : Option α} {slots : Slots types}
    {later : Slots (α :: types)} :
    (cons field rest).put key content (slot, slots) = .ok later ↔
      (key = field.name ∧ slot = .none ∧
        ∃ x, field.codec.decode content = .ok x ∧ (some x, slots) = later) ∨
      (key ≠ field.name ∧
        ∃ taken, rest.put key content slots = .ok taken ∧ (slot, taken) = later) := by
  by_cases hkey : key = field.name
  · subst hkey
    rw [put_cons_self]
    cases slot with
    | none => simp [map_eq_ok_iff]
    | some x => simp
  · rw [put_cons_of_ne hkey, map_eq_ok_iff]
    simp [hkey]

/-- Two members can be taken the other way round. -/
theorem put_comm {first second : String} {content content' : Tree} :
    {types : List Type} → (fields : Fields types) → {slots between later : Slots types} →
    fields.put first content slots = .ok between →
    fields.put second content' between = .ok later →
    ∃ between', fields.put second content' slots = .ok between' ∧
      fields.put first content between' = .ok later
  | _, nil, (), (), (), h, h' => ⟨(), h', h⟩
  | _, cons field rest, (slot, slots), between, later, h, h' => by
      rcases put_cons_eq_ok_iff.mp h with ⟨hfirst, rfl, x, hx, rfl⟩ | ⟨hfirst, taken, htaken, rfl⟩
      · rcases put_cons_eq_ok_iff.mp h' with ⟨_, hslot, _⟩ | ⟨hsecond, taken, htaken, rfl⟩
        · cases hslot
        · exact ⟨(.none, taken), put_cons_eq_ok_iff.mpr (.inr ⟨hsecond, taken, htaken, rfl⟩),
            put_cons_eq_ok_iff.mpr (.inl ⟨hfirst, rfl, x, hx, rfl⟩)⟩
      · rcases put_cons_eq_ok_iff.mp h' with
          ⟨hsecond, rfl, y, hy, rfl⟩ | ⟨hsecond, last, hlast, rfl⟩
        · exact ⟨(some y, slots), put_cons_eq_ok_iff.mpr (.inl ⟨hsecond, rfl, y, hy, rfl⟩),
            put_cons_eq_ok_iff.mpr (.inr ⟨hfirst, taken, htaken, rfl⟩)⟩
        · obtain ⟨between, hbetween, hlater⟩ := rest.put_comm htaken hlast
          exact ⟨(slot, between), put_cons_eq_ok_iff.mpr (.inr ⟨hsecond, between, hbetween, rfl⟩),
            put_cons_eq_ok_iff.mpr (.inr ⟨hfirst, last, hlater, rfl⟩)⟩

/-- A member is taken by the text of its key. -/
theorem takeMember_eq_ok_iff {fields : Fields types} {slots later : Slots types} {key : RawString}
    {content : Tree} :
    fields.takeMember slots (key, content) = .ok later ↔
      ∃ name, key.decode = .ok name ∧ fields.put name content slots = .ok later :=
  bind_eq_ok_iff

/-- A member that is no field is taken for nothing. -/
theorem put_of_not_mem {key : String} {content : Tree} (skipped : content.skipFault? = .none) :
    {types : List Type} → (fields : Fields types) → key ∉ fields.names → (slots : Slots types) →
    fields.put key content slots = .ok slots
  | _, nil, _, () => by simp only [put, skipped]
  | _, cons field rest, unknown, (slot, slots) => by
      rw [names, List.mem_cons, not_or] at unknown
      rw [put_cons_of_ne unknown.1, rest.put_of_not_mem skipped unknown.2]
      rfl

end Taking

section Defaults

/-- A field holds its default: the first one of the name has a default, and the content
is read as it. -/
inductive HoldsDefault (name : String) (content : Tree) : {types : List Type} → Fields types → Prop
  | here {α : Type} {types : List Type} {field : RecordField α} {rest : Fields types} {x : α}
      (named : field.name = name) (default : field.default? = some x)
      (decoded : field.codec.decode content = .ok x) : HoldsDefault name content (cons field rest)
  | there {α : Type} {types : List Type} {field : RecordField α} {rest : Fields types}
      (other : name ≠ field.name) (later : HoldsDefault name content rest) :
      HoldsDefault name content (cons field rest)

/-- A slot that the default of its field was put into need not have been filled. -/
theorem complete_of_put_default {name : String} {content : Tree} {types : List Type}
    {fields : Fields types} (h : HoldsDefault name content fields) {slots later : Slots types}
    (put : fields.put name content slots = .ok later) :
    fields.complete later = fields.complete slots := by
  induction h with
  | @here α types field rest x named default decoded =>
      obtain ⟨slot, slots⟩ := slots
      rcases put_cons_eq_ok_iff.mp put with ⟨_, rfl, y, hy, rfl⟩ | ⟨hne, _⟩
      · rw [decoded] at hy
        cases hy
        simp [complete, default]
      · exact absurd named.symm hne
  | @there α types field rest other later ih =>
      obtain ⟨slot, slots⟩ := slots
      rcases put_cons_eq_ok_iff.mp put with ⟨hsame, _⟩ | ⟨_, taken, htaken, rfl⟩
      · exact absurd hsame other
      · simp only [complete, ih htaken]

end Defaults

section Contents

/-- The codec of the first field of a name. -/
inductive HasField (name : String) :
    {α : Type} → {types : List Type} → Codec α → Fields types → Prop
  | here {α : Type} {types : List Type} {field : RecordField α} {rest : Fields types}
      (named : field.name = name) : HasField name field.codec (cons field rest)
  | there {α β : Type} {types : List Type} {codec : Codec β} {field : RecordField α}
      {rest : Fields types} (other : name ≠ field.name) (later : HasField name codec rest) :
      HasField name codec (cons field rest)

/-- A content that is read as the same is taken in the same way. -/
theorem put_of_hasField {name : String} {content content' : Tree} {α : Type} {codec : Codec α}
    {types : List Type} {fields : Fields types} (h : HasField name codec fields)
    (same : ∀ x, codec.decode content = .ok x → codec.decode content' = .ok x)
    {slots later : Slots types} (put : fields.put name content slots = .ok later) :
    fields.put name content' slots = .ok later := by
  induction h with
  | @here α types field rest named =>
      obtain ⟨slot, slots⟩ := slots
      rcases put_cons_eq_ok_iff.mp put with ⟨_, rfl, x, hx, rfl⟩ | ⟨hne, _⟩
      · exact put_cons_eq_ok_iff.mpr (.inl ⟨named.symm, rfl, x, same x hx, rfl⟩)
      · exact absurd named.symm hne
  | @there α β types codec field rest other later ih =>
      obtain ⟨slot, slots⟩ := slots
      rcases put_cons_eq_ok_iff.mp put with ⟨hsame, _⟩ | ⟨_, taken, htaken, rfl⟩
      · exact absurd hsame other
      · exact put_cons_eq_ok_iff.mpr (.inr ⟨other, taken, ih same htaken, rfl⟩)

/-- The codec of the field at a place. -/
inductive FieldAt : {α : Type} → {types : List Type} → Nat → Codec α → Fields types → Prop
  | here {α : Type} {types : List Type} {field : RecordField α} {rest : Fields types} :
      FieldAt 0 field.codec (cons field rest)
  | there {α β : Type} {types : List Type} {place : Nat} {codec : Codec β} {field : RecordField α}
      {rest : Fields types} (later : FieldAt place codec rest) :
      FieldAt (place + 1) codec (cons field rest)

/-- An item is read by the codec of its field, and the others by the other fields. -/
theorem decodeItems_cons_eq_ok_iff {α : Type} {types : List Type} {field : RecordField α}
    {rest : Fields types} {close : Close} {item : Tree} {items : List Tree}
    {found : Json.Contents (α :: types)} :
    (cons field rest).decodeItems close (item :: items) = .ok found ↔
      ∃ x, field.codec.decode item = .ok x ∧
        ∃ others, rest.decodeItems close items = .ok others ∧ (x, others) = found := by
  rw [decodeItems.eq_def]
  simp only [bind_eq_ok_iff, pure, Except.pure, Except.ok.injEq]

/-- An item that is read as the same may stand for its field as well. -/
theorem decodeItems_of_fieldAt {item item' : Tree} {α : Type} {codec : Codec α} {place : Nat}
    {types : List Type} {fields : Fields types} (h : FieldAt place codec fields)
    (same : ∀ x, codec.decode item = .ok x → codec.decode item' = .ok x) {before after : List Tree}
    (hplace : before.length = place) {close : Close} {found : Json.Contents types}
    (decoded : fields.decodeItems close (before ++ item :: after) = .ok found) :
    fields.decodeItems close (before ++ item' :: after) = .ok found := by
  induction h generalizing before with
  | here =>
      obtain rfl := List.length_eq_zero_iff.mp hplace
      obtain ⟨x, hx, others, hothers, rfl⟩ := decodeItems_cons_eq_ok_iff.mp decoded
      exact decodeItems_cons_eq_ok_iff.mpr ⟨x, same x hx, others, hothers, rfl⟩
  | there later ih =>
      cases before with
      | nil => cases hplace
      | cons first before =>
          obtain ⟨x, hx, others, hothers, rfl⟩ := decodeItems_cons_eq_ok_iff.mp decoded
          exact decodeItems_cons_eq_ok_iff.mpr
            ⟨x, hx, others, ih same (Nat.succ.inj hplace) hothers, rfl⟩

end Contents

section Members

variable {types : List Type} {fields : Fields types}

/-- Members in another order are taken to the same end. -/
theorem foldlM_takeMember_perm {members others : List (RawString × Tree)}
    (perm : members.Perm others) {slots later : Slots types}
    (h : members.foldlM fields.takeMember slots = .ok later) :
    others.foldlM fields.takeMember slots = .ok later := by
  induction perm generalizing slots with
  | nil => exact h
  | cons member _ ih =>
      rw [List.foldlM_cons] at h ⊢
      obtain ⟨taken, htaken, hrest⟩ := bind_eq_ok_iff.mp h
      rw [htaken]
      exact ih hrest
  | swap first second rest =>
      rw [List.foldlM_cons] at h
      obtain ⟨between, hbetween, hafter⟩ := bind_eq_ok_iff.mp h
      rw [List.foldlM_cons] at hafter
      obtain ⟨last, hlast, hrest⟩ := bind_eq_ok_iff.mp hafter
      obtain ⟨name, hname, hput⟩ := takeMember_eq_ok_iff.mp hbetween
      obtain ⟨name', hname', hput'⟩ := takeMember_eq_ok_iff.mp hlast
      obtain ⟨between', hfirst, hsecond⟩ := fields.put_comm hput hput'
      rw [List.foldlM_cons, takeMember_eq_ok_iff.mpr ⟨name', hname', hfirst⟩, ok_bind,
        List.foldlM_cons, takeMember_eq_ok_iff.mpr ⟨name, hname, hsecond⟩]
      exact hrest
  | trans _ _ ih ih' => exact ih' (ih h)

/-- A member is taken behind those before it and in front of those after it. -/
theorem foldlM_takeMember_middle {before after : List (RawString × Tree)}
    {member : RawString × Tree} {slots later : Slots types} :
    (before ++ member :: after).foldlM fields.takeMember slots = .ok later ↔
      ∃ between, before.foldlM fields.takeMember slots = .ok between ∧
        ∃ next, fields.takeMember between member = .ok next ∧
          after.foldlM fields.takeMember next = .ok later := by
  simp only [List.foldlM_append, List.foldlM_cons, bind_eq_ok_iff]

/-- The members of an object that is closed fill the slots of the record. -/
theorem decodeMembers_eq_ok_iff {members : List (RawString × Tree)} {found : Json.Contents types} :
    fields.decodeMembers members .closed = .ok found ↔
      ∃ slots, members.foldlM fields.takeMember fields.none = .ok slots ∧
        fields.complete slots = .ok found :=
  bind_eq_ok_iff

/-- The order of the members makes no difference. -/
theorem decodeMembers_reordered {members others : List (RawString × Tree)}
    (perm : members.Perm others) {found : Json.Contents types}
    (h : fields.decodeMembers members .closed = .ok found) :
    fields.decodeMembers others .closed = .ok found := by
  obtain ⟨slots, htaken, hcomplete⟩ := decodeMembers_eq_ok_iff.mp h
  exact decodeMembers_eq_ok_iff.mpr ⟨slots, foldlM_takeMember_perm perm htaken, hcomplete⟩

/-- A member that is no field makes no difference. -/
theorem decodeMembers_added {before after : List (RawString × Tree)} {key : RawString}
    {name : String} {content : Tree} (hkey : key.decode = .ok name) (unknown : name ∉ fields.names)
    (skipped : content.skipFault? = .none) {found : Json.Contents types}
    (h : fields.decodeMembers (before ++ after) .closed = .ok found) :
    fields.decodeMembers (before ++ (key, content) :: after) .closed = .ok found := by
  obtain ⟨slots, htaken, hcomplete⟩ := decodeMembers_eq_ok_iff.mp h
  rw [List.foldlM_append] at htaken
  obtain ⟨between, hbefore, hafter⟩ := bind_eq_ok_iff.mp htaken
  have hmember : fields.takeMember between (key, content) = .ok between :=
    takeMember_eq_ok_iff.mpr ⟨name, hkey, put_of_not_mem skipped fields unknown between⟩
  exact decodeMembers_eq_ok_iff.mpr ⟨slots,
    foldlM_takeMember_middle.mpr ⟨between, hbefore, between, hmember, hafter⟩, hcomplete⟩

/-- A member that holds the default of its field makes no difference. -/
theorem decodeMembers_dropped {before after : List (RawString × Tree)} {key : RawString}
    {name : String} {content : Tree} (hkey : key.decode = .ok name)
    (default : HoldsDefault name content fields) {found : Json.Contents types}
    (h : fields.decodeMembers (before ++ (key, content) :: after) .closed = .ok found) :
    fields.decodeMembers (before ++ after) .closed = .ok found := by
  -- Where it is taken last, all other slots are filled without it.
  have last : (before ++ (key, content) :: after).Perm (before ++ after ++ [(key, content)]) :=
    List.perm_middle.trans (List.perm_append_singleton _ _).symm
  obtain ⟨slots, htaken, hcomplete⟩ := decodeMembers_eq_ok_iff.mp (decodeMembers_reordered last h)
  obtain ⟨between, hbetween, later, hmember, hdone⟩ := foldlM_takeMember_middle.mp htaken
  cases hdone
  obtain ⟨name', hname', hput⟩ := takeMember_eq_ok_iff.mp hmember
  rw [hkey] at hname'
  cases hname'
  refine decodeMembers_eq_ok_iff.mpr ⟨between, hbetween, ?_⟩
  rw [← complete_of_put_default default hput]
  exact hcomplete

/-- A member whose content is read as the same makes no difference. -/
theorem decodeMembers_changed {before after : List (RawString × Tree)} {key : RawString}
    {name : String} {content content' : Tree} {α : Type} {codec : Codec α}
    (hkey : key.decode = .ok name) (field : HasField name codec fields)
    (same : ∀ x, codec.decode content = .ok x → codec.decode content' = .ok x)
    {found : Json.Contents types}
    (h : fields.decodeMembers (before ++ (key, content) :: after) .closed = .ok found) :
    fields.decodeMembers (before ++ (key, content') :: after) .closed = .ok found := by
  obtain ⟨slots, htaken, hcomplete⟩ := decodeMembers_eq_ok_iff.mp h
  obtain ⟨between, hbefore, later, hmember, hafter⟩ := foldlM_takeMember_middle.mp htaken
  obtain ⟨name', hname', hput⟩ := takeMember_eq_ok_iff.mp hmember
  rw [hkey] at hname'
  cases hname'
  have hmember' : fields.takeMember between (key, content') = .ok later :=
    takeMember_eq_ok_iff.mpr ⟨name, hkey, put_of_hasField field same hput⟩
  exact decodeMembers_eq_ok_iff.mpr ⟨slots,
    foldlM_takeMember_middle.mpr ⟨between, hbefore, later, hmember', hafter⟩, hcomplete⟩

end Members

end Fields

section Values

variable {α : Type} {codec : Codec α}

/-- Every item of an array that is read has been read. -/
theorem Codec.decode_list_eq_ok_iff {items : List Tree} {xs : List α} :
    codec.list.decode (.array items .closed) = .ok xs ↔ items.mapM codec.decode = .ok xs := by
  show (items.mapM codec.decode >>= pure) = .ok xs ↔ _
  rw [bind_pure]

/-- Items that are read as the same make the same list. -/
theorem Codec.decode_list_changed {before after : List Tree} {item item' : Tree}
    (same : ∀ x, codec.decode item = .ok x → codec.decode item' = .ok x) {xs : List α}
    (h : codec.list.decode (.array (before ++ item :: after) .closed) = .ok xs) :
    codec.list.decode (.array (before ++ item' :: after) .closed) = .ok xs := by
  rw [decode_list_eq_ok_iff, List.mapM_append] at h ⊢
  obtain ⟨first, hfirst, hrest⟩ := bind_eq_ok_iff.mp h
  obtain ⟨others, hothers, hxs⟩ := bind_eq_ok_iff.mp hrest
  rw [List.mapM_cons] at hothers
  obtain ⟨x, hx, hlast⟩ := bind_eq_ok_iff.mp hothers
  rw [hfirst, ok_bind, List.mapM_cons, same x hx, ok_bind, hlast, ok_bind]
  exact hxs

/-- The members of a list that is read are what its items are read as. -/
theorem Codec.mem_iff_of_decode_list {items : List Tree} {xs : List α}
    (h : codec.list.decode (.array items .closed) = .ok xs) (x : α) :
    x ∈ xs ↔ ∃ item ∈ items, codec.decode item = .ok x := by
  rw [decode_list_eq_ok_iff] at h
  refine ⟨exists_of_mapM_eq_ok h, ?_⟩
  rintro ⟨item, hitem, hx⟩
  have hall := forall₂_of_mapM_eq_ok h
  clear h
  induction hall with
  | nil => cases hitem
  | cons hfirst _ ih =>
      rcases List.mem_cons.mp hitem with rfl | hitem
      · rw [hfirst] at hx
        cases hx
        exact List.mem_cons_self
      · exact List.mem_cons_of_mem _ (ih hitem)

/-- Arrays of the same items are read as lists of the same members. -/
theorem Codec.decode_list_of_mem_iff {items others : List Tree}
    (same : ∀ item, item ∈ items ↔ item ∈ others) {xs : List α}
    (h : codec.list.decode (.array items .closed) = .ok xs) :
    ∃ ys, codec.list.decode (.array others .closed) = .ok ys ∧ ∀ x, x ∈ xs ↔ x ∈ ys := by
  have hitems : ∀ item ∈ items, Succeeds (codec.decode item) :=
    succeeds_mapM.mp ⟨xs, decode_list_eq_ok_iff.mp h⟩
  obtain ⟨ys, hys⟩ : Succeeds (others.mapM codec.decode) :=
    succeeds_mapM.mpr fun item hitem => hitems item ((same item).mpr hitem)
  have hothers := decode_list_eq_ok_iff.mpr hys
  refine ⟨ys, hothers, fun x => ?_⟩
  rw [mem_iff_of_decode_list h, mem_iff_of_decode_list hothers]
  exact exists_congr fun item => and_congr_left fun _ => same item

end Values

end NwScript.Json
