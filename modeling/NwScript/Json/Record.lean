/-
# Records

A record is written as an object with a member for each of its fields. It is
read from an object whose members may come in any order, with members that are
no fields among them, or from an array of the fields in their order. A field
that is missing takes its default if it has one.
-/

import NwScript.Json.Codec

namespace NwScript.Json

/-- A field of a record. -/
structure RecordField (α : Type) where
  name : String
  codec : Codec α
  /-- What a missing field holds, if it may be missing. -/
  default? : Option α := none

/-- The fields of a record, with the types of their contents. -/
inductive Fields : List Type → Type 1
  | nil : Fields []
  | cons {α : Type} {types : List Type} (field : RecordField α) (rest : Fields types) :
      Fields (α :: types)

/-- The contents of a record, field by field. -/
abbrev Contents : List Type → Type
  | [] => Unit
  | α :: types => α × Contents types

/-- The contents found so far, field by field. -/
abbrev Slots : List Type → Type
  | [] => Unit
  | α :: types => Option α × Slots types

namespace Fields

variable {types : List Type}

/-- Nothing found yet. -/
def none : {types : List Type} → Fields types → Slots types
  | _, nil => ()
  | _, cons _ rest => (.none, rest.none)

/-- Take a member of an object. The content of a member that is no field is
skipped; a field may occur only once, which is judged before its content. -/
def put (key : String) (content : Tree) :
    {types : List Type} → Fields types → Slots types → Decoded (Slots types)
  | _, nil, () =>
      match content.skipFault? with
      | some fault => .error fault
      | .none => .ok ()
  | _, cons field rest, (slot, slots) =>
      if key = field.name then
        match slot with
        | some _ => .error .mistyped
        | .none => do return (some (← field.codec.decode content), slots)
      else do return (slot, ← rest.put key content slots)

/-- The contents of all fields, once no member is left. -/
def complete : {types : List Type} → Fields types → Slots types → Decoded (Contents types)
  | _, nil, () => .ok ()
  | _, cons field rest, (slot, slots) => do
      let x ← match slot <|> field.default? with
        | some x => .ok x
        | .none => .error .mistyped
      return (x, ← rest.complete slots)

/-- Read the members of an object. -/
def decodeMembers (fields : Fields types) (members : List (RawString × Tree)) (close : Close) :
    Decoded (Contents types) := do
  let slots ← members.foldlM
    (fun slots (key, content) => do fields.put (← key.decode) content slots) fields.none
  match close.fault? with
  | some fault => throw fault
  | .none => fields.complete slots

/-- Read the items of an array, field by field. At its end the remaining fields
are missing; after the last field nothing may follow. -/
def decodeItems (close : Close) :
    {types : List Type} → Fields types → List Tree → Decoded (Contents types)
  | _, nil, [] =>
      match close.fault? with
      | some fault => .error fault
      | .none => .ok ()
  | _, nil, _ :: _ => .error .malformed
  | _, cons field rest, [] => do
      if let some fault := close.fault? then throw fault
      let x ← match field.default? with
        | some x => .ok x
        | .none => .error .mistyped
      return (x, ← rest.decodeItems close [])
  | _, cons field rest, item :: items => do
      let x ← field.codec.decode item
      return (x, ← rest.decodeItems close items)

/-- Write the fields as members of an object. -/
def encode : {types : List Type} → Fields types → Contents types → List (String × Value)
  | _, nil, () => []
  | _, cons field rest, (x, contents) => (field.name, field.codec.encode x) :: rest.encode contents

end Fields

/-- A record type, given by its fields and by what a value has in them. -/
def Codec.record {α : Type} {types : List Type} (fields : Fields types)
    (contents : α → Contents types) (make : Contents types → α) : Codec α where
  encode := fun x => .object (fields.encode (contents x))
  decode
    | .object members close => make <$> fields.decodeMembers members close
    | .array items close => make <$> fields.decodeItems close items
    | other => .error other.mismatch

end NwScript.Json
