import EnumCodegen.Code.Identifier
import EnumCodegen.Schema.Placement
import EnumCodegen.WireNames
import EnumCodegen.XmlNode

/-!
# The enums of a schema file

What generation needs to know about a schema file: its enums, each with the messages around it, and
the message fields whose values are those enums.

## Main definitions

* `DeclaredEnum`: an enum, with its wire names and the names that generated code gives it
* `FieldStorage`: how the value of a field is stored
* `EnumField`: a field that holds an enum of its file
* `EnumSchema`: the enums and enum fields of a file
-/

namespace EnumCodegen

/-- **A value of an enum** with the comment above it. -/
structure DeclaredValue where
  name : Text
  number : Int32
  comment? : Option Text
  deriving Repr, DecidableEq

/-- **An enum** with the names of the messages around it, outermost first, and the comment above
it. The full name starts with a dot. -/
structure DeclaredEnum where
  name : Text
  fullName : Text
  nesting : List Text
  values : List DeclaredValue
  comment? : Option Text
  deriving Repr, DecidableEq

namespace DeclaredEnum

/-- **The wire names** of the enum. -/
def wireNames (enum : DeclaredEnum) : WireNames :=
  WireNames.ofDeclared enum.name (enum.values.map (·.name))

/-- The path of the enum's type from the module of its package. -/
def typePath (enum : DeclaredEnum) : Text :=
  Identifier.typePath enum.nesting enum.name

/-- The flat name of the enum. -/
def snakeKey (enum : DeclaredEnum) : Text :=
  Identifier.flatSnake enum.nesting enum.name

/-- The flat name of the enum in upper case. -/
def upperKey (enum : DeclaredEnum) : Text :=
  Identifier.flatUpperSnake enum.nesting enum.name

/-- **The name of the enum in a type system without nesting.** -/
def flatTypeName (enum : DeclaredEnum) : Text :=
  ['_'].intercalate (enum.nesting ++ [enum.name])

end DeclaredEnum

/-- **How the value of an enum field is stored**: as a number, as a number that may be absent, or as
a list of numbers. -/
inductive FieldStorage where
  | singular
  | optional
  | repeated
  deriving Repr, DecidableEq

/-- The part of an enum's adapter that serves fields so stored, if it is a part of its own. -/
def FieldStorage.adapterPart? : FieldStorage → Option Text
  | singular => none
  | optional => some "option"
  | repeated => some "vec"

/-- **A field that holds an enum of its file**: the names of the messages around it, outermost first,
and the place of its enum among those of the file. -/
structure EnumField where
  messagePath : List Text
  name : Text
  enumIndex : Nat
  storage : FieldStorage
  node : XmlNode
  deriving Repr, DecidableEq

/-- The flat name of the field. -/
def EnumField.snakeKey (field : EnumField) : Text :=
  Identifier.flatSnake field.messagePath field.name

/-- **The enums of a schema file** and the fields that hold them. -/
structure EnumSchema where
  name : Text
  package : Text
  placement? : Option Placement
  enums : List DeclaredEnum
  fields : List EnumField
  deriving Repr, DecidableEq

/-- Whether the file declares an enum. -/
def EnumSchema.hasEnums (file : EnumSchema) : Bool :=
  !file.enums.isEmpty

end EnumCodegen
