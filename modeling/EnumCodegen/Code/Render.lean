import EnumCodegen.Code.Item
import EnumCodegen.GraphQL.Declaration

/-!
# The code for a schema file

For each mode a schema file with enums becomes a file of generated code: a header and the items of
the mode. XML and JSON give every enum a trait implementation and a module of adapters; XML also
binds the enum fields; GraphQL declares the enums in constants, one by one and all together.

## Main definitions

* `traitImpl`, `adapterModule`, `fieldBinding?`: the items for an enum and for an enum field
* `EnumSchema.items`: the items for a file in a mode
* `EnumSchema.render?`: the code for a file in a mode
* `EnumSchema.renderNotices`: what there is to report about it
-/

namespace EnumCodegen

/-- **The trait implementation for an enum.** Values whose wire name is the declared one need no
arm. -/
def traitImpl (format : TextFormat) (enum : DeclaredEnum) : TraitImpl :=
  let names := enum.wireNames
  { format
    typePath := enum.typePath
    enumName := enum.name
    toWire := (names.pairs.filter fun (declared, wire) => declared ≠ wire).map
      fun (declared, wire) => ⟨declared, wire⟩
    ofWire := names.accepted.map fun (input, declared) => ⟨input, declared⟩ }

/-- The name of the module of adapters for an enum. -/
def adapterName (format : TextFormat) (enum : DeclaredEnum) : Text :=
  enum.snakeKey ++ "_" ++ format.tag

/-- **The module of adapters for an enum.** -/
def adapterModule (format : TextFormat) (enum : DeclaredEnum) : AdapterModule :=
  ⟨format, adapterName format enum, enum.typePath⟩

/-- The items for an enum in a text format. -/
def formatItems (format : TextFormat) (enum : DeclaredEnum) : List Item :=
  [.traitImpl (traitImpl format enum), .adapter (adapterModule format enum)]

/-- The name of the binding of a field. -/
def bindingName (field : EnumField) : Text :=
  field.snakeKey ++ "_xml_field"

/-- The path of the adapter for fields stored in some way. -/
def adapterPath (enum : DeclaredEnum) (storage : FieldStorage) : Text :=
  match storage.adapterPart? with
  | some part => adapterName .xml enum ++ "::" ++ part
  | none => adapterName .xml enum

/-- **The binding of an enum field**, if its enum is one of the file. -/
def fieldBinding? (enums : List DeclaredEnum) (field : EnumField) : Option FieldBinding :=
  enums[field.enumIndex]?.map fun enum =>
    ⟨bindingName field, field.messagePath, field.name, field.node, adapterPath enum field.storage⟩

/-- **The constant that declares an enum** in GraphQL. -/
def declarationConstant (enum : DeclaredEnum) : TextConstant where
  name := enum.upperKey ++ "_GRAPHQL"
  doc := "GraphQL declaration of `" ++ enum.flatTypeName ++ "`."
  value := GraphQL.declarationText enum

namespace EnumSchema

/-- The name of the constant that declares all enums of a file. -/
def schemaConstantName (file : EnumSchema) : Text :=
  Text.upperSnake (Path.stem file.name) ++ "_GRAPHQL_SCHEMA"

/-- **The constant that declares all enums of a file** in GraphQL. -/
def schemaConstant (file : EnumSchema) : TextConstant where
  name := file.schemaConstantName
  doc := "Every enum declared in `" ++ file.name ++ "`, in declaration order."
  value := ['\n', '\n'].intercalate (file.enums.map GraphQL.declarationText)

/-- **The items for a file** in a mode. -/
def items (file : EnumSchema) : Mode → List Item
  | .xml =>
    file.enums.flatMap (formatItems .xml) ++
      (file.fields.filterMap (fieldBinding? file.enums)).map .binding
  | .json => file.enums.flatMap (formatItems .json)
  | .graphQL => (file.enums.map declarationConstant ++ [file.schemaConstant]).map .constant

/-- The header of the code for a file. -/
def headerLines (file : EnumSchema) (mode : Mode) : List Text :=
  [ "// @generated by protoc-gen-enumwire. DO NOT EDIT.",
    "// source: " ++ file.name,
    "// mode: " ++ mode.token ]

/-- The lines of the code for a file: an empty line stands before every item. -/
def codeLines (file : EnumSchema) (mode : Mode) : List Text :=
  file.headerLines mode ++ (file.items mode).flatMap fun item => [] :: item.lines

/-- **The code for a file** in a mode. A file without enums needs none. -/
def render? (file : EnumSchema) (mode : Mode) : Option Text :=
  if file.hasEnums then some (Code.text (file.codeLines mode)) else none

/-- **What there is to report about the code for a file.** -/
def renderNotices (file : EnumSchema) : Mode → List Notice
  | .xml | .json => []
  | .graphQL => file.enums.flatMap GraphQL.declarationNotices

end EnumSchema

end EnumCodegen
