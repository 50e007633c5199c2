import EnumCodegen.Schema.Walk

/-!
# Documents

A document is a message with values in its fields: numbers of enums, stored in one of three ways, and
texts. Its type tells for every field the name, the XML node and what it holds. Document types are
read off the description of a schema file.

## Main definitions

* `FieldKind`, `DocumentField`, `DocumentType`: what a document holds
* `FieldValue`, `Document`: a document
* `FieldValue.IsFor`: whether a value is one for a field
* `DocumentType.ofMessage`: the type of the documents that a message describes
-/

namespace EnumCodegen

/-- **What a field holds**: numbers of an enum, or a text. -/
inductive FieldKind where
  | enum (enum : DeclaredEnum) (storage : FieldStorage)
  | text
  deriving Repr, DecidableEq

/-- **A field of a document.** -/
structure DocumentField where
  name : Text
  node : XmlNode
  kind : FieldKind
  deriving Repr, DecidableEq

/-- Whether a field may be absent. -/
def DocumentField.mayBeAbsent (field : DocumentField) : Bool :=
  match field.kind with
  | .enum _ .optional | .enum _ .repeated => true
  | .enum _ .singular | .text => false

/-- **The type of a document**: its name and its fields, in order. -/
structure DocumentType where
  name : Text
  fields : List DocumentField
  deriving Repr, DecidableEq

/-- **The value of a field.** -/
inductive FieldValue where
  | number (n : Int32)
  | optional (n? : Option Int32)
  | numbers (ns : List Int32)
  | text (text : Text)
  deriving Repr, DecidableEq

/-- **A document**: a value for every field of its type, in order. -/
abbrev Document := List FieldValue

/-- **Whether a value is one for a field.** -/
def FieldValue.IsFor (field : DocumentField) : FieldValue → Prop
  | number _ => ∃ enum, field.kind = .enum enum .singular
  | optional _ => ∃ enum, field.kind = .enum enum .optional
  | numbers _ => ∃ enum, field.kind = .enum enum .repeated
  | text _ => field.kind = .text

/-- The value of a field that is absent. -/
def DocumentField.absent (field : DocumentField) : FieldValue :=
  match field.kind with
  | .enum _ .singular => .number 0
  | .enum _ .optional => .optional none
  | .enum _ .repeated => .numbers []
  | .text => .text []

/-- Whether the values of a field are texts. -/
def FieldDescriptor.isText (field : FieldDescriptor) : Bool :=
  field.type? = some 9

/-- The field of a document that a message's field describes, if it holds an enum of the file or a
text. -/
def DocumentField.ofDescriptor? (schema : EnumSchema) (message : Text) (field : FieldDescriptor) :
    Option DocumentField :=
  if field.isText then some ⟨field.name, .element (Text.upperCamel field.name), .text⟩
  else
    match schema.fields.find? fun f => f.messagePath = [message] ∧ f.name = field.name with
    | some found =>
      schema.enums[found.enumIndex]?.map fun enum =>
        ⟨found.name, found.node, .enum enum found.storage⟩
    | none => none

/-- **The type of the documents that a message describes.** -/
def DocumentType.ofMessage (schema : EnumSchema) (message : MessageDescriptor) : DocumentType where
  name := message.name
  fields := message.fields.filterMap (DocumentField.ofDescriptor? schema message.name)

end EnumCodegen
