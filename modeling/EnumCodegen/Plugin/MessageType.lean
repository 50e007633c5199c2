import EnumCodegen.Protobuf.Schema

/-!
# The message types of the plugin protocol

The messages that a schema compiler exchanges with its plugins, and the descriptions of schema files
inside them. Fields that the generator does not use are known all the same: they are checked when they
are read, and a fault in them is reported under their names.

## Main definitions

* `Plugin.MessageType`: the message types
* `Plugin.schema`: their names and fields
-/

namespace EnumCodegen.Plugin

open Protobuf

/-- **The message types** of the plugin protocol. -/
inductive MessageType where
  | request
  | version
  | response
  | responseFile
  | file
  | message
  | extensionRange
  | reservedRange
  | extensionRangeOptions
  | field
  | oneof
  | enum
  | enumReservedRange
  | enumValue
  | service
  | method
  | fileOptions
  | messageOptions
  | fieldOptions
  | oneofOptions
  | enumOptions
  | enumValueOptions
  | serviceOptions
  | methodOptions
  | uninterpretedOption
  | namePart
  | sourceInfo
  | location
  | generatedInfo
  | annotation
  deriving Repr, DecidableEq

/-- The name of a message type. -/
def MessageType.name : MessageType → Text
  | request => "CodeGeneratorRequest"
  | version => "Version"
  | response => "CodeGeneratorResponse"
  | responseFile => "File"
  | file => "FileDescriptorProto"
  | message => "DescriptorProto"
  | extensionRange => "ExtensionRange"
  | reservedRange => "ReservedRange"
  | extensionRangeOptions => "ExtensionRangeOptions"
  | field => "FieldDescriptorProto"
  | oneof => "OneofDescriptorProto"
  | enum => "EnumDescriptorProto"
  | enumReservedRange => "EnumReservedRange"
  | enumValue => "EnumValueDescriptorProto"
  | service => "ServiceDescriptorProto"
  | method => "MethodDescriptorProto"
  | fileOptions => "FileOptions"
  | messageOptions => "MessageOptions"
  | fieldOptions => "FieldOptions"
  | oneofOptions => "OneofOptions"
  | enumOptions => "EnumOptions"
  | enumValueOptions => "EnumValueOptions"
  | serviceOptions => "ServiceOptions"
  | methodOptions => "MethodOptions"
  | uninterpretedOption => "UninterpretedOption"
  | namePart => "NamePart"
  | sourceInfo => "SourceCodeInfo"
  | location => "Location"
  | generatedInfo => "GeneratedCodeInfo"
  | annotation => "Annotation"

/-- A field of a message type. -/
private def entry (tag : Nat) (name : String) (kind : FieldKind MessageType) :
    FieldType MessageType :=
  ⟨tag, name.toList, kind⟩

/-- The field that every set of options has for options that could not be interpreted. -/
def uninterpretedField : FieldType MessageType :=
  entry 999 "uninterpreted_option" (.message .uninterpretedOption)

/-- **The fields of a message type.** -/
def MessageType.fields : MessageType → List (FieldType MessageType)
  | request =>
    [ entry 1 "file_to_generate" .text,
      entry 2 "parameter" .text,
      entry 3 "compiler_version" (.message version),
      entry 15 "proto_file" (.message file) ]
  | version =>
    [ entry 1 "major" .number,
      entry 2 "minor" .number,
      entry 3 "patch" .number,
      entry 4 "suffix" .text ]
  | response =>
    [ entry 1 "error" .text,
      entry 2 "supported_features" .number,
      entry 15 "file" (.message responseFile) ]
  | responseFile =>
    [ entry 1 "name" .text,
      entry 2 "insertion_point" .text,
      entry 15 "content" .text,
      entry 16 "generated_code_info" (.message generatedInfo) ]
  | file =>
    [ entry 1 "name" .text,
      entry 2 "package" .text,
      entry 3 "dependency" .text,
      entry 4 "message_type" (.message message),
      entry 5 "enum_type" (.message enum),
      entry 6 "service" (.message service),
      entry 7 "extension" (.message field),
      entry 8 "options" (.message fileOptions),
      entry 9 "source_code_info" (.message sourceInfo),
      entry 10 "public_dependency" .numbers,
      entry 11 "weak_dependency" .numbers,
      entry 12 "syntax" .text ]
  | message =>
    [ entry 1 "name" .text,
      entry 2 "field" (.message field),
      entry 3 "nested_type" (.message message),
      entry 4 "enum_type" (.message enum),
      entry 5 "extension_range" (.message extensionRange),
      entry 6 "extension" (.message field),
      entry 7 "options" (.message messageOptions),
      entry 8 "oneof_decl" (.message oneof),
      entry 9 "reserved_range" (.message reservedRange),
      entry 10 "reserved_name" .text ]
  | extensionRange =>
    [ entry 1 "start" .number,
      entry 2 "end" .number,
      entry 3 "options" (.message extensionRangeOptions) ]
  | reservedRange =>
    [ entry 1 "start" .number,
      entry 2 "end" .number ]
  | extensionRangeOptions => [uninterpretedField]
  | field =>
    [ entry 1 "name" .text,
      entry 2 "extendee" .text,
      entry 3 "number" .number,
      entry 4 "label" .number,
      entry 5 "r#type" .number,
      entry 6 "type_name" .text,
      entry 7 "default_value" .text,
      entry 8 "options" (.message fieldOptions),
      entry 9 "oneof_index" .number,
      entry 10 "json_name" .text,
      entry 17 "proto3_optional" .number ]
  | oneof =>
    [ entry 1 "name" .text,
      entry 2 "options" (.message oneofOptions) ]
  | enum =>
    [ entry 1 "name" .text,
      entry 2 "value" (.message enumValue),
      entry 3 "options" (.message enumOptions),
      entry 4 "reserved_range" (.message enumReservedRange),
      entry 5 "reserved_name" .text ]
  | enumReservedRange =>
    [ entry 1 "start" .number,
      entry 2 "end" .number ]
  | enumValue =>
    [ entry 1 "name" .text,
      entry 2 "number" .number,
      entry 3 "options" (.message enumValueOptions) ]
  | service =>
    [ entry 1 "name" .text,
      entry 2 "method" (.message method),
      entry 3 "options" (.message serviceOptions) ]
  | method =>
    [ entry 1 "name" .text,
      entry 2 "input_type" .text,
      entry 3 "output_type" .text,
      entry 4 "options" (.message methodOptions),
      entry 5 "client_streaming" .number,
      entry 6 "server_streaming" .number ]
  | fileOptions =>
    [ entry 1 "java_package" .text,
      entry 8 "java_outer_classname" .text,
      entry 9 "optimize_for" .number,
      entry 10 "java_multiple_files" .number,
      entry 11 "go_package" .text,
      entry 16 "cc_generic_services" .number,
      entry 17 "java_generic_services" .number,
      entry 18 "py_generic_services" .number,
      entry 20 "java_generate_equals_and_hash" .number,
      entry 23 "deprecated" .number,
      entry 27 "java_string_check_utf8" .number,
      entry 31 "cc_enable_arenas" .number,
      entry 36 "objc_class_prefix" .text,
      entry 37 "csharp_namespace" .text,
      entry 39 "swift_prefix" .text,
      entry 40 "php_class_prefix" .text,
      entry 41 "php_namespace" .text,
      entry 42 "php_generic_services" .number,
      entry 44 "php_metadata_namespace" .text,
      entry 45 "ruby_package" .text,
      uninterpretedField ]
  | messageOptions =>
    [ entry 1 "message_set_wire_format" .number,
      entry 2 "no_standard_descriptor_accessor" .number,
      entry 3 "deprecated" .number,
      entry 7 "map_entry" .number,
      uninterpretedField ]
  | fieldOptions =>
    [ entry 1 "ctype" .number,
      entry 2 "packed" .number,
      entry 3 "deprecated" .number,
      entry 5 "lazy" .number,
      entry 6 "jstype" .number,
      entry 10 "weak" .number,
      uninterpretedField ]
  | oneofOptions => [uninterpretedField]
  | enumOptions =>
    [ entry 2 "allow_alias" .number,
      entry 3 "deprecated" .number,
      uninterpretedField ]
  | enumValueOptions =>
    [ entry 1 "deprecated" .number,
      uninterpretedField ]
  | serviceOptions =>
    [ entry 33 "deprecated" .number,
      uninterpretedField ]
  | methodOptions =>
    [ entry 33 "deprecated" .number,
      entry 34 "idempotency_level" .number,
      uninterpretedField ]
  | uninterpretedOption =>
    [ entry 2 "name" (.message namePart),
      entry 3 "identifier_value" .text,
      entry 4 "positive_int_value" .number,
      entry 5 "negative_int_value" .number,
      entry 6 "double_value" .fixed64,
      entry 7 "string_value" .bytes,
      entry 8 "aggregate_value" .text ]
  | namePart =>
    [ entry 1 "name_part" .text,
      entry 2 "is_extension" .number ]
  | sourceInfo => [entry 1 "location" (.message location)]
  | location =>
    [ entry 1 "path" .numbers,
      entry 2 "span" .numbers,
      entry 3 "leading_comments" .text,
      entry 4 "trailing_comments" .text,
      entry 6 "leading_detached_comments" .text ]
  | generatedInfo => [entry 1 "annotation" (.message annotation)]
  | annotation =>
    [ entry 1 "path" .numbers,
      entry 2 "source_file" .text,
      entry 3 "begin" .number,
      entry 4 "end" .number ]

/-- **The schema** of the plugin protocol. -/
def schema : Schema MessageType :=
  ⟨MessageType.name, MessageType.fields⟩

end EnumCodegen.Plugin
