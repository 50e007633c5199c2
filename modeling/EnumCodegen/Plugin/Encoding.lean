import EnumCodegen.Plugin.Message
import EnumCodegen.Plugin.MessageType
import EnumCodegen.Protobuf.Reader

/-!
# The encoding of requests and responses

Every part of a request or response is written as the list of its fields, in the order of their
numbers and without those that are unset, and is read from such a list.

## Main definitions

* `Plugin.Request.encode`, `Plugin.Request.decode`: requests as bytes
* `Plugin.Response.encode`, `Plugin.Response.decode`: responses as bytes
-/

namespace EnumCodegen

open Protobuf

/-! ## Descriptions -/

/-- The fields of a value of an enum. -/
def EnumValueDescriptor.toFields (value : EnumValueDescriptor) : List Field :=
  textField 1 value.name? ++ int32Field 2 value.number?

/-- The value of an enum with the given fields. -/
def EnumValueDescriptor.ofFields (fields : List Field) : EnumValueDescriptor where
  name? := lastText? 1 fields
  number? := (lastNumber? 2 fields).map int32

/-- The fields of an enum. -/
def EnumDescriptor.toFields (enum : EnumDescriptor) : List Field :=
  textField 1 enum.name? ++ enum.values.map fun value => .message 2 value.toFields

/-- The enum with the given fields. -/
def EnumDescriptor.ofFields (fields : List Field) : EnumDescriptor where
  name? := lastText? 1 fields
  values := (submessages 2 fields).map EnumValueDescriptor.ofFields

/-- The fields of a message's field. -/
def FieldDescriptor.toFields (field : FieldDescriptor) : List Field :=
  textField 1 field.name? ++ int32Field 3 field.number? ++ int32Field 4 field.label? ++
    int32Field 5 field.type? ++ textField 6 field.typeName? ++ int32Field 9 field.oneofIndex? ++
    (field.proto3Optional?.map fun on => Field.number 17 (if on then 1 else 0)).toList

/-- The message's field with the given fields. -/
def FieldDescriptor.ofFields (fields : List Field) : FieldDescriptor where
  name? := lastText? 1 fields
  number? := (lastNumber? 3 fields).map int32
  label? := (lastNumber? 4 fields).map int32
  type? := (lastNumber? 5 fields).map int32
  typeName? := lastText? 6 fields
  oneofIndex? := (lastNumber? 9 fields).map int32
  proto3Optional? := (lastNumber? 17 fields).map (· ≠ 0)

mutual

/-- The fields of a message. -/
def MessageDescriptor.toFields : MessageDescriptor → List Field
  | ⟨name?, fields, nested, enums⟩ =>
    textField 1 name? ++ fields.map (fun field => .message 2 field.toFields) ++
      MessageDescriptor.nestedFields nested ++ enums.map fun enum => .message 4 enum.toFields

/-- The fields for the messages inside a message. -/
def MessageDescriptor.nestedFields : List MessageDescriptor → List Field
  | [] => []
  | message :: rest => .message 3 message.toFields :: MessageDescriptor.nestedFields rest

end

mutual

/-- The messages under a number. -/
def MessageDescriptor.listOf (tag : Nat) : List Field → List MessageDescriptor
  | [] => []
  | field :: rest =>
    match MessageDescriptor.ofField? tag field with
    | some message => message :: MessageDescriptor.listOf tag rest
    | none => MessageDescriptor.listOf tag rest

/-- The message in a field, if the field has the number. -/
def MessageDescriptor.ofField? (tag : Nat) : Field → Option MessageDescriptor
  | .message t inner =>
    if t = tag then
      some
        { name? := lastText? 1 inner
          fields := (submessages 2 inner).map FieldDescriptor.ofFields
          nested := MessageDescriptor.listOf 3 inner
          enums := (submessages 4 inner).map EnumDescriptor.ofFields }
    else none
  | .number .. | .packed .. | .fixed64 .. | .text .. | .bytes .. => none

end

/-- The fields of a location. -/
def SourceLocation.toFields (location : SourceLocation) : List Field :=
  packedField 1 location.path ++ packedField 2 location.span ++ textField 3 location.leading? ++
    textField 4 location.trailing?

/-- The location with the given fields. -/
def SourceLocation.ofFields (fields : List Field) : SourceLocation where
  path := (numbers 1 fields).map int32
  span := (numbers 2 fields).map int32
  leading? := lastText? 3 fields
  trailing? := lastText? 4 fields

/-- The fields of a file's source. -/
def SourceInfo.toFields (source : SourceInfo) : List Field :=
  source.locations.map fun location => .message 1 location.toFields

/-- The file's source with the given fields. -/
def SourceInfo.ofFields (fields : List Field) : SourceInfo where
  locations := (submessages 1 fields).map SourceLocation.ofFields

/-- The fields of a file's options. -/
def FileOptions.toFields (options : FileOptions) : List Field :=
  textField 11 options.goPackage?

/-- The file's options with the given fields. -/
def FileOptions.ofFields (fields : List Field) : FileOptions where
  goPackage? := lastText? 11 fields

/-- The fields of a file. -/
def FileDescriptor.toFields (file : FileDescriptor) : List Field :=
  textField 1 file.name? ++ textField 2 file.package? ++
    file.messages.map (fun message => .message 4 message.toFields) ++
    file.enums.map (fun enum => .message 5 enum.toFields) ++
    (file.options?.map fun options => Field.message 8 options.toFields).toList ++
    (file.source?.map fun source => Field.message 9 source.toFields).toList ++
    textField 12 file.dialect?

/-- The file with the given fields. -/
def FileDescriptor.ofFields (fields : List Field) : FileDescriptor where
  name? := lastText? 1 fields
  package? := lastText? 2 fields
  dialect? := lastText? 12 fields
  enums := (submessages 5 fields).map EnumDescriptor.ofFields
  messages := MessageDescriptor.listOf 4 fields
  options? := (submessage? 8 fields).map FileOptions.ofFields
  source? := (submessage? 9 fields).map SourceInfo.ofFields

namespace Plugin

/-! ## Requests -/

/-- The fields of a version. -/
def CompilerVersion.toFields (version : CompilerVersion) : List Field :=
  int32Field 1 version.major? ++ int32Field 2 version.minor? ++ int32Field 3 version.patch? ++
    textField 4 version.suffix?

/-- The version with the given fields. -/
def CompilerVersion.ofFields (fields : List Field) : CompilerVersion where
  major? := (lastNumber? 1 fields).map int32
  minor? := (lastNumber? 2 fields).map int32
  patch? := (lastNumber? 3 fields).map int32
  suffix? := lastText? 4 fields

/-- The fields of a request. -/
def Request.toFields (request : Request) : List Field :=
  textFields 1 request.filesToGenerate ++ textField 2 request.parameter? ++
    (request.version?.map fun version => Field.message 3 version.toFields).toList ++
    request.files.map fun file => .message 15 file.toFields

/-- The request with the given fields. -/
def Request.ofFields (fields : List Field) : Request where
  filesToGenerate := texts 1 fields
  parameter? := lastText? 2 fields
  version? := (submessage? 3 fields).map CompilerVersion.ofFields
  files := (submessages 15 fields).map FileDescriptor.ofFields

/-- **The bytes of a request.** -/
def Request.encode (request : Request) : Bytes :=
  encodeFields request.toFields

/-- **The request in bytes.** -/
def Request.decode (bytes : Bytes) : Except DecodeError Request := do
  return ofFields (← Protobuf.decode schema .request bytes)

/-! ## Responses -/

/-- The fields of an output file. -/
def ResponseFile.toFields (file : ResponseFile) : List Field :=
  textField 1 file.name? ++ textField 2 file.insertionPoint? ++ textField 15 file.content?

/-- The output file with the given fields. -/
def ResponseFile.ofFields (fields : List Field) : ResponseFile where
  name? := lastText? 1 fields
  insertionPoint? := lastText? 2 fields
  content? := lastText? 15 fields

/-- The fields of a response. -/
def Response.toFields (response : Response) : List Field :=
  textField 1 response.error? ++
    (response.supportedFeatures?.map fun features => Field.number 2 features.toNat).toList ++
    response.files.map fun file => .message 15 file.toFields

/-- The response with the given fields. -/
def Response.ofFields (fields : List Field) : Response where
  error? := lastText? 1 fields
  supportedFeatures? := (lastNumber? 2 fields).map UInt64.ofNat
  files := (submessages 15 fields).map ResponseFile.ofFields

/-- **The bytes of a response.** -/
def Response.encode (response : Response) : Bytes :=
  encodeFields response.toFields

/-- **The response in bytes.** -/
def Response.decode (bytes : Bytes) : Except DecodeError Response := do
  return ofFields (← Protobuf.decode schema .response bytes)

end Plugin

end EnumCodegen
