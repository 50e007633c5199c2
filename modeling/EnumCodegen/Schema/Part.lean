import EnumCodegen.Schema.Walk

/-!
# The parts of a file that comments address

The path of a location consists of field numbers of the description, each followed by an index. A
file has its messages in field 4 and its enums in field 5; a message has its fields in field 2, the
messages in it in field 3 and its enums in field 4; an enum has its values in field 2. A path is read
by these numbers alone, and what stands at its end is then looked up in the description.

## Main definitions

* `Place`, `Part`: an enum, a value or a field by its indices
* `Part.ofPath?`, `SourceLocation.part?`: the part that a path leads to
* `FileDescriptor.messageAt?`, `FileDescriptor.enumAt?`, `FileDescriptor.fieldAt?`: what stands in a
  place, with the names of the messages around it
* `FileDescriptor.IsRecorded`: the parts whose comments matter
* `FileDescriptor.commentOn?`, `FileDescriptor.AsksForAttribute`: what comments say about a part
-/

namespace EnumCodegen

/-- **A place in the tree of a file**: the indices of the messages down to it, outermost first, and
the index there. -/
structure Place where
  messages : List Nat
  index : Nat
  deriving Repr, DecidableEq, Inhabited

/-- **A part of a file** that a comment may address. -/
inductive Part where
  | enum (place : Place)
  | value (place : Place) (index : Nat)
  | field (place : Place)
  deriving Repr, DecidableEq

namespace Part

/-- Reading the rest of a path inside the message to which the indices lead. -/
def inMessage? (messages : List Nat) : List Nat → Option Part
  | [2, i] => some (field ⟨messages, i⟩)
  | 3 :: i :: rest => inMessage? (messages ++ [i]) rest
  | [4, i] => some (enum ⟨messages, i⟩)
  | [4, i, 2, j] => some (value ⟨messages, i⟩ j)
  | _ => none

/-- **The part that a path leads to**, if it leads to an enum, a value or a field. -/
def ofPath? : List Nat → Option Part
  | 4 :: i :: rest => inMessage? [i] rest
  | [5, i] => some (enum ⟨[], i⟩)
  | [5, i, 2, j] => some (value ⟨[], i⟩ j)
  | _ => none

end Part

/-- **The part that a location addresses**, if its path leads to one. -/
def SourceLocation.part? (location : SourceLocation) : Option Part :=
  (location.path.mapM fun n : Int32 => n.toInt.toNat?).bind Part.ofPath?

/-- The message to which indices lead from another, with the names from there down to it. -/
def MessageDescriptor.at? (message : MessageDescriptor) :
    List Nat → Option (List Text × MessageDescriptor)
  | [] => some ([message.name], message)
  | i :: rest =>
    message.nested[i]?.bind fun inner =>
      (inner.at? rest).map fun (names, found) => (message.name :: names, found)

namespace FileDescriptor

/-- **The message to which indices lead**, with the names down to it. -/
def messageAt? (file : FileDescriptor) : List Nat → Option (List Text × MessageDescriptor)
  | [] => none
  | i :: rest => file.messages[i]?.bind (·.at? rest)

/-- **The enum in a place**, with the names of the messages around it. -/
def enumAt? (file : FileDescriptor) (place : Place) : Option (List Text × EnumDescriptor) :=
  match place.messages with
  | [] => file.enums[place.index]?.map ([], ·)
  | messages =>
    (file.messageAt? messages).bind fun (names, message) =>
      message.enums[place.index]?.map (names, ·)

/-- **The field in a place**, with the names of the messages around it. -/
def fieldAt? (file : FileDescriptor) (place : Place) : Option (List Text × FieldDescriptor) :=
  (file.messageAt? place.messages).bind fun (names, message) =>
    message.fields[place.index]?.map (names, ·)

/-- Whether an enum of the file has the full name. -/
def Declares (file : FileDescriptor) (name : Text) : Prop :=
  ∃ place nesting enum, file.enumAt? place = some (nesting, enum) ∧
    fullName file.package nesting enum.name = name

/-- **The parts that the schema of a file records**: its enums, their values, and the fields whose
enum the file declares. -/
def IsRecorded (file : FileDescriptor) : Part → Prop
  | .enum place => ∃ nesting enum, file.enumAt? place = some (nesting, enum)
  | .value place j => ∃ nesting enum, file.enumAt? place = some (nesting, enum) ∧
      j < enum.values.length
  | .field place => ∃ names field, file.fieldAt? place = some (names, field) ∧
      field.isEnum = true ∧ file.Declares field.typeName

/-- The location that counts for a part: the last that addresses it. -/
def locationOn? (file : FileDescriptor) (part : Part) : Option SourceLocation :=
  file.locations.findRev? (·.part? = some part)

/-- **The comment on a part**: the leading comment of the location that counts, in normal form. -/
def commentOn? (file : FileDescriptor) (part : Part) : Option Text :=
  (file.locationOn? part).bind fun location => location.leading?.bind cleanComment?

/-- **Whether a part asks to be an attribute**: a comment of the location that counts, leading or
trailing, holds the marker. -/
def AsksForAttribute (file : FileDescriptor) (part : Part) : Prop :=
  ∃ location, file.locationOn? part = some location ∧
    ∃ comment, (location.leading? = some comment ∨ location.trailing? = some comment) ∧
      attributeMarker <:+: comment

/-- **The record of the enum in a place**, with the comments on it and on its values. -/
def RecordsEnum (file : FileDescriptor) (place : Place) (declared : DeclaredEnum) : Prop :=
  ∃ enum, file.enumAt? place = some (declared.nesting, enum) ∧ declared.name = enum.name ∧
    declared.comment? = file.commentOn? (.enum place) ∧
    declared.values = enum.values.mapIdx fun j value =>
      ⟨value.name, value.number, file.commentOn? (.value place j)⟩

/-- **The record of the field in a place**, bound to an attribute or to an element. -/
def RecordsField (file : FileDescriptor) (place : Place) (recorded : EnumField) : Prop :=
  ∃ field, file.fieldAt? place = some (recorded.messagePath, field) ∧ recorded.name = field.name ∧
    ((∃ name, recorded.node = .attribute name) ↔ file.AsksForAttribute (.field place))

/-- The file with other locations. -/
def withLocations (file : FileDescriptor) (locations : List SourceLocation) : FileDescriptor :=
  { file with source? := some ⟨locations⟩ }

end FileDescriptor

end EnumCodegen
