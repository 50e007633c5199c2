import EnumCodegen.Descriptor

/-!
# The sample schema

A small package with every situation that generation treats differently: an enum at the top, enums
whose value names repeat the name of the enum, enums inside messages one and three levels deep, a
field bound to an attribute, and fields that hold an optional enum or a list. A second file declares
no enum.

## Main definitions

* `Sample.enumsFile`, `Sample.plainFile`: the files of the package
* `Sample.files`: both, in order
-/

namespace EnumCodegen.Sample

/-- An enum whose values are numbered from zero. -/
def enumOf (name : Text) (values : List Text) : EnumDescriptor where
  name? := some name
  values := values.zipIdx.map fun (value, i) => ⟨some value, some (Int32.ofNat i)⟩

/-- A field that holds an enum of the package. -/
def enumField (name : Text) (number label : Int32) (typeName : Text) : FieldDescriptor where
  name? := some name
  number? := some number
  label? := some label
  type? := some 14
  typeName? := some (".fixture." ++ typeName)

/-- A field that holds a text. -/
def textField (name : Text) (number : Int32) : FieldDescriptor where
  name? := some name
  number? := some number
  label? := some 1
  type? := some 9

/-- The enum at the top. -/
def rootEnum : EnumDescriptor :=
  enumOf "RootEnum" ["ABC", "DEF"]

/-- The enum whose value names repeat its own. -/
def prefixedEnum : EnumDescriptor :=
  enumOf "ScreamingSnakeWithPrefix"
    ["SCREAMING_SNAKE_WITH_PREFIX_ABC", "SCREAMING_SNAKE_WITH_PREFIX_DEF"]

/-- A message around an enum at the top. -/
def withRootEnum : MessageDescriptor where
  name? := some "MessageWithRootEnum"
  fields := [enumField "field" 1 1 "RootEnum"]

/-- A message with an enum of its own. -/
def withNestedEnum : MessageDescriptor where
  name? := some "MessageWithNestedEnum"
  fields := [enumField "field" 1 1 "MessageWithNestedEnum.Nested"]
  enums := [enumOf "Nested" ["ABC", "DEF"]]

/-- A message with an enum two messages further in. -/
def withDeeplyNestedEnum : MessageDescriptor where
  name? := some "MessageWithDeeplyNestedEnum"
  fields := [enumField "field" 1 1 "MessageWithDeeplyNestedEnum.Outer.Inner.Deeply"]
  nested :=
    [{ name? := some "Outer"
       nested :=
        [{ name? := some "Inner"
           enums := [enumOf "Deeply" ["ABC", "DEF"]] }] }]

/-- A message around the enum whose value names repeat its own. -/
def withPrefixedEnum : MessageDescriptor where
  name? := some "ScreamingSnakeWithPrefixEnum"
  fields := [enumField "field" 1 1 "ScreamingSnakeWithPrefix"]

/-- A message whose enum field is bound to an attribute. -/
def withAttribute : MessageDescriptor where
  name? := some "MessageWithAttribute"
  fields := [enumField "field" 1 1 "RootEnum", textField "note" 2]

/-- A message whose enum fields hold an optional value and a list. -/
def withEnumShapes : MessageDescriptor where
  name? := some "MessageWithEnumShapes"
  fields :=
    [{ enumField "maybe" 1 1 "RootEnum" with oneofIndex? := some 0, proto3Optional? := some true },
      enumField "many" 2 3 "ScreamingSnakeWithPrefix"]

/-- **The file with enums.** A comment describes the enum at the top, and one behind the first field
of the fifth message binds the field to an attribute. -/
def enumsFile : FileDescriptor where
  name? := some "fixture/enums.proto"
  package? := some "fixture"
  dialect? := some "proto3"
  enums := [rootEnum, prefixedEnum]
  messages :=
    [withRootEnum, withNestedEnum, withDeeplyNestedEnum, withPrefixedEnum, withAttribute,
      withEnumShapes]
  source? := some
    { locations :=
        [{ path := [5, 0], leading? := some " Top-level enum.\n" },
          { path := [4, 4, 2, 0], trailing? := some " xml:attr\n" }] }

/-- The message of the file without enums. -/
def plain : MessageDescriptor where
  name? := some "Plain"
  fields := [textField "name" 1]

/-- **The file without enums.** -/
def plainFile : FileDescriptor where
  name? := some "fixture/plain.proto"
  package? := some "fixture"
  dialect? := some "proto3"
  messages := [plain]

/-- **The files of the package**, in order. -/
def files : List FileDescriptor :=
  [enumsFile, plainFile]

end EnumCodegen.Sample
