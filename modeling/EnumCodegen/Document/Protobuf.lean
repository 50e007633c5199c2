import EnumCodegen.Document.Basic
import EnumCodegen.Protobuf.Reader

/-!
# Documents in bytes

A document is encoded as a message whose fields have the numbers of the description. Fields that hold
zero or nothing are left out, and lists are packed. Numbers need not be those of a value.

## Main definitions

* `EncodedType`: a document type with the numbers of its fields
* `EncodedType.encode`, `EncodedType.decode`: a document as bytes and back
-/

namespace EnumCodegen

open Protobuf

/-- **A document type with the numbers of its fields.** -/
structure EncodedType where
  name : Text
  fields : List (Nat × DocumentField)
  deriving Repr

namespace EncodedType

/-- The encoded type of the documents that a message describes. -/
def ofMessage (schema : EnumSchema) (message : MessageDescriptor) : EncodedType where
  name := message.name
  fields := message.fields.filterMap fun field =>
    (DocumentField.ofDescriptor? schema message.name field).map fun documentField =>
      ((field.number?.getD 0).toNatClampNeg, documentField)

/-- The kind of an encoded field's values. -/
def fieldKind (field : DocumentField) : Protobuf.FieldKind Unit :=
  match field.kind with
  | .enum _ .singular | .enum _ .optional => .number
  | .enum _ .repeated => .numbers
  | .text => .text

/-- The schema of a single document type. -/
def schema (type : EncodedType) : Schema Unit where
  name _ := type.name
  fields _ := type.fields.map fun (tag, field) => ⟨tag, field.name, fieldKind field⟩

/-- The fields for a value; none for zero and nothing. -/
def toFields (tag : Nat) : FieldValue → List Field
  | .number n => if n = 0 then [] else int32Field tag (some n)
  | .optional n? => int32Field tag n?
  | .numbers ns => packedField tag ns
  | .text text => if text.isEmpty then [] else textField tag (some text)

/-- The value that the fields under a number hold. -/
def ofFields (tag : Nat) (field : DocumentField) (fields : List Field) : FieldValue :=
  match field.kind with
  | .enum _ .singular => .number (((lastNumber? tag fields).map int32).getD 0)
  | .enum _ .optional => .optional ((lastNumber? tag fields).map int32)
  | .enum _ .repeated => .numbers ((numbers tag fields).map int32)
  | .text => .text ((lastText? tag fields).getD [])

/-- **A document as bytes.** -/
def encode (type : EncodedType) (document : Document) : Bytes :=
  encodeFields ((type.fields.zip document).flatMap fun ((tag, _), value) => toFields tag value)

/-- **A document from bytes.** -/
def decode (type : EncodedType) (bytes : Bytes) : Except DecodeError Document := do
  let fields ← Protobuf.decode type.schema () bytes
  return type.fields.map fun (tag, field) => ofFields tag field fields

end EncodedType

end EnumCodegen
