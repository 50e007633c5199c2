import EnumCodegen.Protobuf.Varint

/-!
# The fields of a message

A message in memory is the list of its fields in the order in which they were encoded. Merging two
messages is appending their lists: for a single value the last field counts, for repeated values all
of them, and the parts of a single message field are merged.

## Main definitions

* `Protobuf.Field`: a field with its value
* `Protobuf.encodeField`, `Protobuf.encodeFields`: the encoding
* `Protobuf.lastText?`, `Protobuf.lastNumber?`, `Protobuf.texts`, `Protobuf.numbers`,
  `Protobuf.submessages`, `Protobuf.submessage?`: the values of the field with a number
-/

namespace EnumCodegen.Protobuf

/-- **A field with its value**, under its number. -/
inductive Field where
  | number (tag n : Nat)
  | packed (tag : Nat) (numbers : List Nat)
  | fixed64 (tag n : Nat)
  | text (tag : Nat) (text : Text)
  | bytes (tag : Nat) (bytes : Bytes)
  | message (tag : Nat) (fields : List Field)
  deriving Repr, BEq

/-! ## Encoding -/

/-- The bytes of a text in UTF-8. -/
def utf8 (text : Text) : Bytes :=
  (String.ofList text).toUTF8.toList

/-- The text that bytes encode in UTF-8. -/
def ofUtf8? (bytes : Bytes) : Option Text :=
  (String.fromUTF8? ⟨bytes.toArray⟩).map (·.toList)

/-- The eight bytes of a number, the lowest first. -/
def eightBytes (n : Nat) : Bytes :=
  (List.range 8).map fun i => UInt8.ofNat (n >>> (8 * i))

/-- The key of a field. -/
def writeKey (tag : Nat) (wire : WireType) : Bytes :=
  writeVarint (tag * 8 + wire.toNat)

/-- A payload behind its length. -/
def delimited (payload : Bytes) : Bytes :=
  writeVarint payload.length ++ payload

mutual

/-- **The encoding of a field.** -/
def encodeField : Field → Bytes
  | .number tag n => writeKey tag .varint ++ writeVarint n
  | .packed tag numbers => writeKey tag .lengthDelimited ++ delimited (numbers.flatMap writeVarint)
  | .fixed64 tag n => writeKey tag .sixtyFourBit ++ eightBytes n
  | .text tag text => writeKey tag .lengthDelimited ++ delimited (utf8 text)
  | .bytes tag bytes => writeKey tag .lengthDelimited ++ delimited bytes
  | .message tag fields => writeKey tag .lengthDelimited ++ delimited (encodeFields fields)

/-- **The encoding of a message.** -/
def encodeFields : List Field → Bytes
  | [] => []
  | field :: rest => encodeField field ++ encodeFields rest

end

/-! ## Values -/

/-- The texts under a number. -/
def texts (tag : Nat) (fields : List Field) : List Text :=
  fields.filterMap fun
    | .text t text => if t = tag then some text else none
    | _ => none

/-- The text under a number, unless it is unset. -/
def lastText? (tag : Nat) (fields : List Field) : Option Text :=
  (texts tag fields).getLast?

/-- The numbers under a number, packed or not. -/
def numbers (tag : Nat) (fields : List Field) : List Nat :=
  fields.flatMap fun
    | .number t n => if t = tag then [n] else []
    | .packed t numbers => if t = tag then numbers else []
    | _ => []

/-- The number under a number, unless it is unset. -/
def lastNumber? (tag : Nat) (fields : List Field) : Option Nat :=
  (numbers tag fields).getLast?

/-- The low 32 bits of a number, as a signed number. -/
def int32 (n : Nat) : Int32 :=
  Int32.ofNat n

/-- A signed number extended to 64 bits: the remainder by `2 ^ 64`. -/
def ofInt32 (n : Int32) : Nat :=
  (n.toInt % 18446744073709551616).toNat

/-- The messages under a number. -/
def submessages (tag : Nat) (fields : List Field) : List (List Field) :=
  fields.filterMap fun
    | .message t inner => if t = tag then some inner else none
    | _ => none

/-- The message under a number, merged from all its parts, unless it is unset. -/
def submessage? (tag : Nat) (fields : List Field) : Option (List Field) :=
  match submessages tag fields with
  | [] => none
  | parts => some parts.flatten

/-- The field for an optional text. -/
def textField (tag : Nat) (text? : Option Text) : List Field :=
  (text?.map (.text tag)).toList

/-- The field for an optional number of 32 bits. -/
def int32Field (tag : Nat) (n? : Option Int32) : List Field :=
  (n?.map fun n => .number tag (ofInt32 n)).toList

/-- The field for a list of numbers of 32 bits, none if it is empty. -/
def packedField (tag : Nat) (list : List Int32) : List Field :=
  if list.isEmpty then [] else [.packed tag (list.map ofInt32)]

/-- The fields for a list of texts. -/
def textFields (tag : Nat) (list : List Text) : List Field :=
  list.map (.text tag)

end EnumCodegen.Protobuf
