/-
# Variants

A type with several cases is written as the name of the case, or, if the case
has a content, as an object with that name as its only key. A case without
content may also be written as such an object, with `null` for the content.
-/

import NwScript.Json.Codec

namespace NwScript.Json

/-- One case of a type: its name, and the value it stands for, given the tree of
the content if there is one. -/
structure Variant (α : Type) where
  name : String
  decode : Option Tree → Decoded α

namespace Variant

variable {α β : Type}

/-- Nothing, written as `null`. -/
def decodeNull (x : α) : Tree → Decoded α
  | .null => .ok x
  | other => .error other.mismatch

/-- A case without content. -/
def plain (name : String) (x : α) : Variant α where
  name := name
  decode
    | none => .ok x
    | some content => decodeNull x content

/-- A case with a content. -/
def holding (name : String) (codec : Codec β) (make : β → α) : Variant α where
  name := name
  decode
    | none => .error .mistyped
    | some content => make <$> codec.decode content

/-- The case of a given name. A type may have one case that every unknown name
stands for. -/
def find (variants : List (Variant α)) (other? : Option α) (name : String) :
    Decoded (Variant α) :=
  match variants.find? fun variant => variant.name == name with
  | some variant => .ok variant
  | none =>
      match other? with
      | some x => .ok (plain name x)
      | none => .error .mistyped

/-- What follows the only member of an object that holds a variant: a second
member would be no valid text. -/
def closeFault? : Close → Option Fault
  | .closed => none
  | .stopped fault => some fault
  | .dangling _ => some .malformed

/-- Read a value by its cases. What is neither a name nor an object of one member
is no valid text here, whatever else it may be. -/
def decodeAny (variants : List (Variant α)) (other? : Option α) : Tree → Decoded α
  | .string s => do (← find variants other? (← s.decode)).decode none
  | .object [] close => .error ((closeFault? close).getD .malformed)
  | .object ((key, content) :: others) close => do
      let variant ← find variants other? (← key.decode)
      let x ← variant.decode (some content)
      if !others.isEmpty then throw .malformed
      match closeFault? close with
      | some fault => throw fault
      | none => return x
  | .absent => .error .truncated
  | .null | .bool _ | .number _ | .array .. | .unexpected | .cutWord | .cutNumber =>
      .error .malformed

end Variant

namespace Codec

variable {α : Type}

/-- A type given by its cases. -/
def variants (encode : α → Value) (cases : List (Variant α)) (other? : Option α := none) :
    Codec α where
  encode := encode
  decode := Variant.decodeAny cases other?

/-- A type whose cases have no content: a list of them and their names. -/
def named (all : List α) (name : α → String) (other? : Option α := none) : Codec α :=
  variants (fun x => .string (name x)) (all.map fun x => Variant.plain (name x) x) other?

end Codec

end NwScript.Json
