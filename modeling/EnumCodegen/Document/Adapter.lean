import EnumCodegen.Code.Item
import EnumCodegen.Document.Basic
import EnumCodegen.Document.Error
import EnumCodegen.Json.Value
import EnumCodegen.Number.Shortest

/-!
# Adapters between numbers and wire names

An enum field holds numbers and travels as wire names. Single numbers become strings, an absent
optional number becomes null, and several numbers become a list. XML ignores white space around the
names it reads.

## Main definitions

* `DeclaredEnum.nameOf?`, `DeclaredEnum.numberOf?`: numbers and wire names
* `Adapter.write`, `Adapter.read`: the values of a field as JSON values and back
-/

namespace EnumCodegen

/-- **The wire name of a number**: that of the first value with the number. -/
def DeclaredEnum.nameOf? (enum : DeclaredEnum) (n : Int32) : Option Text :=
  (enum.values.find? (·.number = n)).bind fun value => enum.wireNames.wireName? value.name

/-- **The number that incoming text means**: that of the first value with the declared name. -/
def DeclaredEnum.numberOf? (enum : DeclaredEnum) (input : Text) : Option Int32 :=
  (enum.wireNames.meaning? input).bind fun declared =>
    (enum.values.find? (·.name = declared)).map (·.number)

namespace Adapter

/-! ## Writing -/

/-- The wire name of a number, or the error that it has none. -/
def writeName (enum : DeclaredEnum) (n : Int32) : Except DocumentError Text :=
  match enum.nameOf? n with
  | some name => .ok name
  | none => .error (.unrecognized (.number enum.name n))

/-- A number as a JSON value. -/
def writeNumber (enum : DeclaredEnum) (n : Int32) : Except DocumentError Json :=
  (writeName enum n).map .string

/-- An optional number as a JSON value. -/
def writeOptional (enum : DeclaredEnum) : Option Int32 → Except DocumentError Json
  | some n => writeNumber enum n
  | none => .ok .null

/-- A list of numbers as a JSON value. -/
def writeNumbers (enum : DeclaredEnum) (ns : List Int32) : Except DocumentError Json :=
  (ns.mapM (writeNumber enum)).map .list

/-! ## Reading -/

/-- **What was found** instead of the expected value, in words. -/
def found : Json → Text
  | .null => "null"
  | .boolean b => "boolean `" ++ (if b then "true" else "false") ++ "`"
  | .integer n => "integer `" ++ Text.signedNumeral n ++ "`"
  | .float x => "floating point `" ++ x.written ++ "`"
  | .string text => "string " ++ text.quoted
  | .list _ => "sequence"
  | .object _ => "map"

/-- A string. -/
def readString : Json → Except DocumentError Text
  | .string text => .ok text
  | other => .error (.wrongType (found other) "a string")

/-- The name as a format hands it on. -/
def received (format : TextFormat) (text : Text) : Text :=
  match format with
  | .xml => Text.trimmed CharClass.isWhiteSpace text
  | .json => text

/-- The number that a name means, or the error that it means none. -/
def readName (format : TextFormat) (enum : DeclaredEnum) (text : Text) :
    Except DocumentError Int32 :=
  let name := received format text
  match enum.numberOf? name with
  | some n => .ok n
  | none => .error (.unrecognized (.name enum.name name))

/-- A number from a JSON value. -/
def readNumber (format : TextFormat) (enum : DeclaredEnum) (value : Json) :
    Except DocumentError Int32 := do
  readName format enum (← readString value)

/-- An optional number from a JSON value. -/
def readOptional (format : TextFormat) (enum : DeclaredEnum) :
    Json → Except DocumentError (Option Int32)
  | .null => .ok none
  | value => (readNumber format enum value).map some

/-- **A list of numbers from a JSON value.** Every item has to be a string before any is looked up. -/
def readNumbers (format : TextFormat) (enum : DeclaredEnum) :
    Json → Except DocumentError (List Int32)
  | .list items => do
    let names ← items.mapM readString
    names.mapM (readName format enum)
  | other => .error (.wrongType (found other) "a sequence")

/-! ## Fields -/

/-- **The value of a field as a JSON value.** A value that is not one for the field counts as null. -/
def write (field : DocumentField) (value : FieldValue) : Except DocumentError Json :=
  match field.kind, value with
  | .enum enum .singular, .number n => writeNumber enum n
  | .enum enum .optional, .optional n? => writeOptional enum n?
  | .enum enum .repeated, .numbers ns => writeNumbers enum ns
  | .text, .text text => .ok (.string text)
  | _, _ => .ok .null

/-- **The value of a field from a JSON value.** -/
def read (format : TextFormat) (field : DocumentField) (value : Json) :
    Except DocumentError FieldValue :=
  match field.kind with
  | .enum enum .singular => (readNumber format enum value).map .number
  | .enum enum .optional => (readOptional format enum value).map .optional
  | .enum enum .repeated => (readNumbers format enum value).map .numbers
  | .text => (readString value).map .text

end Adapter

end EnumCodegen
