import EnumCodegen.Protobuf.Basic

/-!
# Types of messages

What a reader has to know about a message: for every field its number, its name and the kind of its
values. A schema gives this for a family of message types, which may refer to one another.

## Main definitions

* `Protobuf.FieldKind`: the kind of a field's values
* `Protobuf.FieldType`: a field
* `Protobuf.Schema`: a family of message types
-/

namespace EnumCodegen.Protobuf

/-- **The kind of a field's values.** Repeated numbers may also come packed into one payload. -/
inductive FieldKind (T : Type) where
  | number
  | numbers
  | fixed64
  | text
  | bytes
  | message (type : T)
  deriving Repr, DecidableEq

/-- **A field** of a message type. -/
structure FieldType (T : Type) where
  tag : Nat
  name : Text
  kind : FieldKind T

/-- **A family of message types**: their names and fields. -/
structure Schema (T : Type) where
  name : T → Text
  fields : T → List (FieldType T)

/-- The field of a message type with a number. -/
def Schema.field? {T : Type} (schema : Schema T) (type : T) (tag : Nat) : Option (FieldType T) :=
  (schema.fields type).find? (·.tag = tag)

end EnumCodegen.Protobuf
