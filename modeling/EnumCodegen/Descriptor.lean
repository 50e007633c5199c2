import EnumCodegen.Text.Basic

/-!
# Descriptions of schema files

What a schema compiler says about a schema file: its enums, its messages and their fields, and where
its comments stand. Every scalar may be left unset and then reads as empty, zero or false.

## Main definitions

* `FileDescriptor`, `MessageDescriptor`, `FieldDescriptor`, `EnumDescriptor`, `EnumValueDescriptor`:
  a schema file and its parts
* `SourceInfo`, `SourceLocation`: where the comments of the file belong
* `FieldLabel`: how often a field may occur
-/

namespace EnumCodegen

/-- **A value of an enum.** -/
structure EnumValueDescriptor where
  name? : Option Text := none
  number? : Option Int32 := none
  deriving Repr, DecidableEq

/-- **An enum.** -/
structure EnumDescriptor where
  name? : Option Text := none
  values : List EnumValueDescriptor := []
  deriving Repr, DecidableEq

/-- **A field of a message.** Label and type are the numbers that the description carries. -/
structure FieldDescriptor where
  name? : Option Text := none
  number? : Option Int32 := none
  label? : Option Int32 := none
  type? : Option Int32 := none
  typeName? : Option Text := none
  oneofIndex? : Option Int32 := none
  proto3Optional? : Option Bool := none
  deriving Repr, DecidableEq

/-- **A message**, which may hold further messages and enums. -/
structure MessageDescriptor where
  name? : Option Text := none
  fields : List FieldDescriptor := []
  nested : List MessageDescriptor := []
  enums : List EnumDescriptor := []
  deriving Repr, BEq, Inhabited

/-- **The options of a file** that matter to the generator: where its output belongs. -/
structure FileOptions where
  goPackage? : Option Text := none
  deriving Repr, DecidableEq

/-- **A place in the source** with the comments around it. The path addresses a part of the
description by field numbers and indices. -/
structure SourceLocation where
  path : List Int32 := []
  span : List Int32 := []
  leading? : Option Text := none
  trailing? : Option Text := none
  deriving Repr, DecidableEq

/-- **The source of a file**, as far as it is recorded. -/
structure SourceInfo where
  locations : List SourceLocation := []
  deriving Repr, DecidableEq

/-- **A schema file.** -/
structure FileDescriptor where
  name? : Option Text := none
  package? : Option Text := none
  dialect? : Option Text := none
  enums : List EnumDescriptor := []
  messages : List MessageDescriptor := []
  options? : Option FileOptions := none
  source? : Option SourceInfo := none
  deriving Repr, BEq

/-- **How often a field may occur.** -/
inductive FieldLabel where
  | optional
  | required
  | repeated
  deriving Repr, DecidableEq

/-- The name of a value. -/
def EnumValueDescriptor.name (value : EnumValueDescriptor) : Text :=
  value.name?.getD []

/-- The number of a value. -/
def EnumValueDescriptor.number (value : EnumValueDescriptor) : Int32 :=
  value.number?.getD 0

/-- The name of an enum. -/
def EnumDescriptor.name (enum : EnumDescriptor) : Text :=
  enum.name?.getD []

namespace FieldDescriptor

/-- The name of a field. -/
def name (field : FieldDescriptor) : Text :=
  field.name?.getD []

/-- The full name of the type of a field, if it has one. -/
def typeName (field : FieldDescriptor) : Text :=
  field.typeName?.getD []

/-- **The label** of a field. An unknown number reads as optional. -/
def label (field : FieldDescriptor) : FieldLabel :=
  match field.label? with
  | some 2 => .required
  | some 3 => .repeated
  | _ => .optional

/-- Whether the values of a field are those of an enum. -/
def isEnum (field : FieldDescriptor) : Bool :=
  field.type? = some 14

/-- Whether presence of the field is tracked by an explicit mark. -/
def proto3Optional (field : FieldDescriptor) : Bool :=
  field.proto3Optional?.getD false

end FieldDescriptor

/-- The name of a message. -/
def MessageDescriptor.name (message : MessageDescriptor) : Text :=
  message.name?.getD []

namespace FileDescriptor

/-- The name of a file. -/
def name (file : FileDescriptor) : Text :=
  file.name?.getD []

/-- The package of a file, empty if it has none. -/
def package (file : FileDescriptor) : Text :=
  file.package?.getD []

/-- Whether the file is written in the third dialect of the schema language, in which plain fields
do not track presence. -/
def isProto3 (file : FileDescriptor) : Bool :=
  file.dialect? = some "proto3".toList

/-- The recorded locations of a file. -/
def locations (file : FileDescriptor) : List SourceLocation :=
  (file.source?.map (·.locations)).getD []

end FileDescriptor

end EnumCodegen
