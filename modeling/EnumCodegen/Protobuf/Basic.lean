import EnumCodegen.Text.Basic

/-!
# Encoded messages

A message is encoded as a sequence of fields, each a key and a payload. The key holds the number of
the field and a wire type, which tells where the payload ends. This module names the wire types and
what can be wrong with an encoded message.

## Main definitions

* `Bytes`: encoded messages
* `WireType`: how a payload is laid out
* `Protobuf.Fault`: what is wrong
* `Protobuf.DecodeError`: what is wrong, and in which fields
-/

namespace EnumCodegen

/-- **Bytes**, in order. -/
abbrev Bytes := List UInt8

namespace Protobuf

/-- **The wire types**: how a payload is laid out. -/
inductive WireType where
  | varint
  | sixtyFourBit
  | lengthDelimited
  | startGroup
  | endGroup
  | thirtyTwoBit
  deriving Repr, DecidableEq

namespace WireType

/-- The number of a wire type in a key. -/
def toNat : WireType → Nat
  | varint => 0
  | sixtyFourBit => 1
  | lengthDelimited => 2
  | startGroup => 3
  | endGroup => 4
  | thirtyTwoBit => 5

/-- The wire type with a number. -/
def ofNat? : Nat → Option WireType
  | 0 => some varint
  | 1 => some sixtyFourBit
  | 2 => some lengthDelimited
  | 3 => some startGroup
  | 4 => some endGroup
  | 5 => some thirtyTwoBit
  | _ => none

/-- The name of a wire type. -/
def name : WireType → Text
  | varint => "Varint"
  | sixtyFourBit => "SixtyFourBit"
  | lengthDelimited => "LengthDelimited"
  | startGroup => "StartGroup"
  | endGroup => "EndGroup"
  | thirtyTwoBit => "ThirtyTwoBit"

@[simp] theorem ofNat?_toNat (wire : WireType) : ofNat? wire.toNat = some wire := by
  cases wire <;> rfl

theorem toNat_lt (wire : WireType) : wire.toNat < 8 := by
  cases wire <;> decide

end WireType

/-- **What is wrong with an encoded message.** -/
inductive Fault where
  /-- A number is cut off or too long. -/
  | invalidVarint
  /-- A payload ends behind the end of the input. -/
  | bufferUnderflow
  /-- The fields of a message end behind its end. -/
  | lengthExceeded
  /-- A key is too large. -/
  | invalidKey (key : Nat)
  /-- A key holds no wire type. -/
  | invalidWireType (wire : Nat)
  /-- A key holds the field number zero. -/
  | invalidTag
  /-- A known field has an unfit wire type. -/
  | unexpectedWireType (actual expected : WireType)
  /-- A text is not UTF-8. -/
  | invalidText
  /-- A group ends that was not begun. -/
  | unexpectedEndGroup
  /-- Messages are nested too deeply. -/
  | recursionLimit
  deriving Repr, DecidableEq

/-- A fault in words. -/
def Fault.message : Fault → Text
  | invalidVarint => "invalid varint"
  | bufferUnderflow => "buffer underflow"
  | lengthExceeded => "delimited length exceeded"
  | invalidKey key => "invalid key value: " ++ Text.numeral key
  | invalidWireType wire => "invalid wire type value: " ++ Text.numeral wire
  | invalidTag => "invalid tag value: 0"
  | unexpectedWireType actual expected =>
    "invalid wire type: " ++ actual.name ++ " (expected " ++ expected.name ++ ")"
  | invalidText => "invalid string value: data is not UTF-8 encoded"
  | unexpectedEndGroup => "unexpected end group tag"
  | recursionLimit => "recursion limit reached"

/-- **A decoding error**: the fault, and the fields in which it lies, each as the names of its message
and its own, the innermost first. -/
structure DecodeError where
  fault : Fault
  fields : List (Text × Text) := []
  deriving Repr, DecidableEq

/-- **A decoding error in words.** -/
def DecodeError.message (error : DecodeError) : Text :=
  "failed to decode Protobuf message: " ++
    (error.fields.flatMap fun (message, field) => message ++ '.' :: field ++ [':', ' ']) ++
    error.fault.message

/-- An error that lies in one more field. -/
def DecodeError.within (message field : Text) (error : DecodeError) : DecodeError :=
  { error with fields := error.fields ++ [(message, field)] }

end Protobuf

end EnumCodegen
