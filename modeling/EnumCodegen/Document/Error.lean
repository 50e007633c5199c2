import EnumCodegen.Text.Quoted

/-!
# Why a document cannot be written or read

## Main definitions

* `Unrecognized`: a number or name that belongs to no value of an enum
* `DocumentError`: what is wrong with a document
* `DocumentError.message`: the report
-/

namespace EnumCodegen

/-- **A number or name that belongs to no value of an enum.** -/
inductive Unrecognized where
  | number (enumName : Text) (n : Int32)
  | name (enumName name : Text)
  deriving Repr, DecidableEq

namespace Unrecognized

/-- The name of the enum. -/
def enumName : Unrecognized → Text
  | .number enum _ => enum
  | .name enum _ => enum

/-- The offending value: a number as it is, a name in quotes. -/
def value : Unrecognized → Text
  | .number _ n => Text.signedNumeral n.toInt
  | .name _ text => text.quoted

/-- The report. -/
def message (cause : Unrecognized) : Text :=
  "unrecognized value " ++ cause.value ++ " for enum " ++ cause.enumName

end Unrecognized

/-- **What is wrong with a document.** -/
inductive DocumentError where
  /-- A number or name belongs to no value of its enum. -/
  | unrecognized (cause : Unrecognized)
  /-- A value is not of the expected type. -/
  | wrongType (found expected : Text)
  /-- A field is missing. -/
  | missing (field : Text)
  /-- A field occurs twice. -/
  | duplicate (field : Text)
  /-- A list of field values ends before the fields do. -/
  | tooShort (length : Nat) (type : Text) (fields : Nat)
  /-- A list of field values goes on behind the last field. -/
  | tooLong (length : Nat)
  /-- The text is not well formed. -/
  | malformed
  deriving Repr, DecidableEq

/-- **The report** of an error. What is malformed gets no words. -/
def DocumentError.message : DocumentError → Text
  | unrecognized cause => cause.message
  | wrongType found expected => "invalid type: " ++ found ++ ", expected " ++ expected
  | missing field => "missing field `" ++ field ++ "`"
  | duplicate field => "duplicate field `" ++ field ++ "`"
  | tooShort length type fields =>
    "invalid length " ++ Text.numeral length ++ ", expected struct " ++ type ++ " with " ++
      Text.numeral fields ++ (if fields = 1 then " element" else " elements")
  | tooLong length =>
    "invalid length " ++ Text.numeral length ++ ", expected fewer elements in array"
  | malformed => []

end EnumCodegen
