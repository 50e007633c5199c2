import EnumCodegen.Protobuf.Field
import EnumCodegen.Protobuf.Schema

/-!
# Reading encoded messages

A message is read field by field from the bytes of the whole input; the end of an inner message is
the count of bytes that have to be left behind it. So a number or length may be read across that end,
and only then is it found that the message ran too far. Unknown fields are skipped. Messages and
groups may be nested to a limited depth.

Reading takes a bound on its steps, which the length of the input provides: every step takes a byte,
and every other one where groups are skipped.

## Main definitions

* `Protobuf.readKey`: reading the key of a field
* `Protobuf.skip`: skipping the payload of an unknown field
* `Protobuf.readFields`: reading the fields of a message
* `Protobuf.decode`: reading a whole message
-/

namespace EnumCodegen.Protobuf

/-- The greatest depth of nested messages. -/
def depthLimit : Nat :=
  100

/-- Reading a number. -/
def readNumber (bytes : Bytes) : Except DecodeError (Nat × Bytes) :=
  match readVarint? bytes with
  | some result => .ok result
  | none => .error ⟨.invalidVarint, []⟩

/-- The bound of keys, `2 ^ 32`. -/
def keyBound : Nat :=
  4294967296

/-- **Reading the key of a field**: its number and wire type. -/
def readKey (bytes : Bytes) : Except DecodeError (Nat × WireType × Bytes) := do
  let (key, rest) ← readNumber bytes
  if keyBound ≤ key then throw ⟨.invalidKey key, []⟩
  match WireType.ofNat? (key % 8) with
  | none => throw ⟨.invalidWireType (key % 8), []⟩
  | some wire =>
    if key / 8 = 0 then throw ⟨.invalidTag, []⟩
    return (key / 8, wire, rest)

/-- Refusing a payload that is not laid out as expected. -/
def expect (expected actual : WireType) : Except DecodeError Unit :=
  if actual = expected then .ok () else .error ⟨.unexpectedWireType actual expected, []⟩

/-- The first bytes and the rest, if there are enough. -/
def readBytes (count : Nat) (bytes : Bytes) : Except DecodeError (Bytes × Bytes) :=
  if count ≤ bytes.length then .ok (bytes.take count, bytes.drop count)
  else .error ⟨.bufferUnderflow, []⟩

/-- Reading a length that the rest of the input can hold. -/
def readLength (bytes : Bytes) : Except DecodeError (Nat × Bytes) := do
  let (length, rest) ← readNumber bytes
  if length ≤ rest.length then return (length, rest) else throw ⟨.bufferUnderflow, []⟩

mutual

/-- **Skipping a payload** of the given wire type, at a depth that is left. -/
def skip : Nat → Nat → Nat → WireType → Bytes → Except DecodeError Bytes
  | 0, _, _, _, _ => .error ⟨.bufferUnderflow, []⟩
  | steps + 1, depth, tag, wire, bytes => do
    if depth = 0 then throw ⟨.recursionLimit, []⟩
    match wire with
    | .varint => return (← readNumber bytes).2
    | .thirtyTwoBit => return (← readBytes 4 bytes).2
    | .sixtyFourBit => return (← readBytes 8 bytes).2
    | .lengthDelimited =>
      let (length, rest) ← readLength bytes
      return rest.drop length
    | .startGroup => skipGroup steps depth tag bytes
    | .endGroup => throw ⟨.unexpectedEndGroup, []⟩

/-- Skipping the fields of a group, up to the end of the group. -/
def skipGroup : Nat → Nat → Nat → Bytes → Except DecodeError Bytes
  | 0, _, _, _ => .error ⟨.bufferUnderflow, []⟩
  | steps + 1, depth, tag, bytes => do
    let (inner, wire, rest) ← readKey bytes
    if wire = .endGroup then
      if inner = tag then return rest else throw ⟨.unexpectedEndGroup, []⟩
    else
      let rest ← skip steps (depth - 1) inner wire rest
      skipGroup steps depth tag rest

end

/-- Reading numbers until so many bytes are left. -/
def readPacked (left : Nat) : Nat → Bytes → Except DecodeError (List Nat × Bytes)
  | 0, bytes => .ok ([], bytes)
  | steps + 1, bytes => do
    if bytes.length ≤ left then return ([], bytes)
    let (n, rest) ← readNumber bytes
    let (numbers, rest) ← readPacked left steps rest
    return (n :: numbers, rest)

/-- Checking that a payload ended where its length said. -/
def expectEnd {α : Type} (left : Nat) (result : α × Bytes) : Except DecodeError (α × Bytes) :=
  if result.2.length = left then .ok result else .error ⟨.lengthExceeded, []⟩

/-- **Reading a payload without inner fields**, as a field under its number. -/
def readPlain {T : Type} (tag : Nat) (kind : FieldKind T) (wire : WireType) (bytes : Bytes) :
    Except DecodeError (Field × Bytes) := do
  match kind with
  | .number =>
    expect .varint wire
    let (n, rest) ← readNumber bytes
    return (.number tag n, rest)
  | .numbers =>
    if wire = .lengthDelimited then
      let (length, rest) ← readLength bytes
      let left := rest.length - length
      let (numbers, rest) ← expectEnd left (← readPacked left rest.length rest)
      return (.packed tag numbers, rest)
    else
      expect .varint wire
      let (n, rest) ← readNumber bytes
      return (.number tag n, rest)
  | .fixed64 =>
    expect .sixtyFourBit wire
    let (bytes, rest) ← readBytes 8 bytes
    return (.fixed64 tag (bytes.foldr (fun byte n => byte.toNat + 256 * n) 0), rest)
  | .text =>
    expect .lengthDelimited wire
    let (length, rest) ← readLength bytes
    match ofUtf8? (rest.take length) with
    | some text => return (.text tag text, rest.drop length)
    | none => throw ⟨.invalidText, []⟩
  | .bytes | .message _ =>
    expect .lengthDelimited wire
    let (length, rest) ← readLength bytes
    return (.bytes tag (rest.take length), rest.drop length)

/-- **Reading the fields of a message** until so many bytes are left, at a depth that is left. -/
def readFields {T : Type} (schema : Schema T) :
    Nat → T → Nat → Nat → Bytes → Except DecodeError (List Field × Bytes)
  | 0, _, _, _, bytes => .ok ([], bytes)
  | steps + 1, type, depth, left, bytes => do
    if bytes.length ≤ left then return ([], bytes)
    let (tag, wire, rest) ← readKey bytes
    match schema.field? type tag with
    | none =>
      let rest ← skip (2 * rest.length + 2) depth tag wire rest
      readFields schema steps type depth left rest
    | some field =>
      let read : Except DecodeError (Field × Bytes) :=
        match field.kind with
        | .message inner => do
          expect .lengthDelimited wire
          if depth = 0 then throw ⟨.recursionLimit, []⟩
          let (length, rest) ← readLength rest
          let innerLeft := rest.length - length
          let (fields, rest) ←
            expectEnd innerLeft (← readFields schema steps inner (depth - 1) innerLeft rest)
          return (.message tag fields, rest)
        | kind => readPlain tag kind wire rest
      let (value, rest) ← read.mapError (·.within (schema.name type) field.name)
      let (values, rest) ← readFields schema steps type depth left rest
      return (value :: values, rest)

/-- **Reading a whole message.** -/
def decode {T : Type} (schema : Schema T) (type : T) (bytes : Bytes) :
    Except DecodeError (List Field) := do
  let (fields, _) ← readFields schema (bytes.length + 1) type depthLimit 0 bytes
  return fields

end EnumCodegen.Protobuf
