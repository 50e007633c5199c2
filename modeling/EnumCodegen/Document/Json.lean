import EnumCodegen.Document.Adapter
import EnumCodegen.Json.Parser
import EnumCodegen.Json.Printer

/-!
# Documents in JSON

A document is an object with a member for every field. Members are read in the order of their names,
unknown members are ignored, and then the first missing field is reported. A list of the values in the
order of the fields is read as well.

## Main definitions

* `DocumentType.toJson`, `DocumentType.writeJson`: a document as a JSON value and as text
* `DocumentType.ofJson`, `DocumentType.readJson`: a document from a JSON value and from text
-/

namespace EnumCodegen

/-- **A document as a JSON value.** -/
def DocumentType.toJson (type : DocumentType) (document : Document) : Except DocumentError Json := do
  let members ← (type.fields.zip document).mapM fun (field, value) =>
    (Adapter.write field value).map (field.name, ·)
  return .object members

/-- **A document as JSON text.** -/
def DocumentType.writeJson (type : DocumentType) (document : Document) : Except DocumentError Text :=
  (type.toJson document).map (·.written)

/-- The values read so far, by the names of their fields. -/
abbrev ReadValues := List (Text × FieldValue)

/-- The values of all fields, those not read being absent. The first field that may not be absent is
reported as missing, under its key. -/
def completed (fields : List DocumentField) (key : DocumentField → Text) (values : ReadValues) :
    Except DocumentError Document :=
  fields.mapM fun field =>
    match values.lookup (key field) with
    | some value => .ok value
    | none => if field.mayBeAbsent then .ok field.absent else .error (.missing (key field))

/-- The values of the members that belong to fields, in the order of the members. -/
def readMembers (fields : List DocumentField) :
    List (Text × Json) → Except DocumentError ReadValues
  | [] => .ok []
  | (name, value) :: rest =>
    match fields.find? (·.name = name) with
    | some field => do
      let value ← Adapter.read .json field value
      return (name, value) :: (← readMembers fields rest)
    | none => readMembers fields rest

/-- The values of a list that stands for a document, the given count of fields being read already. -/
def readPositions (type : DocumentType) (count : Nat) :
    List DocumentField → List Json → Except DocumentError Document
  | [], [] => .ok []
  | [], rest => .error (.tooLong (count + rest.length))
  | field :: fields, [] =>
    if field.mayBeAbsent then do return field.absent :: (← readPositions type count fields [])
    else .error (.tooShort count type.name type.fields.length)
  | field :: fields, value :: rest => do
    let value ← Adapter.read .json field value
    return value :: (← readPositions type (count + 1) fields rest)

/-- **A document from a JSON value.** -/
def DocumentType.ofJson (type : DocumentType) : Json → Except DocumentError Document
  | .object members => do
    completed type.fields (·.name) (← readMembers type.fields (Json.sortedMembers members))
  | .list items => readPositions type 0 type.fields items
  | other => .error (.wrongType (Adapter.found other) ("struct " ++ type.name))

/-- **A document from JSON text.** -/
def DocumentType.readJson (type : DocumentType) (text : Text) : Except DocumentError Document :=
  match Json.parse? text with
  | some value => type.ofJson value
  | none => .error .malformed

end EnumCodegen
