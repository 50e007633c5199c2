import EnumCodegen.Protobuf.Reader
import Mathlib.Data.List.Basic

/-!
# What was written is read

Every part of an encoded message tells where it ends, so it is read as it was written, whatever
follows it. For a field this takes that its message type knows it, that what it holds fits into the
depth that is left, and that the reader still has a step for every byte. A field of message type is
read back because the fields in it are; so the fields of a whole message are read back in turn.

## Main definitions

* `Protobuf.Field.depth`, `Protobuf.Field.depthOf`: how deeply messages are nested in fields
* `Protobuf.Schema.Knows`: the fields that messages of a type may have
* `Protobuf.Schema.ReadsBack`: a field is read as it was written

## Main results

* `Protobuf.ofUtf8?_utf8`, `Protobuf.int32_ofInt32`: texts and signed numbers are read back
* `Protobuf.Schema.Knows.readsBack`: every known field is read back
* `Protobuf.decode_encodeFields`: every message of known fields is read back
-/

namespace EnumCodegen.Protobuf

/-! ## Texts and numbers -/

private theorem toList_loop (bytes : ByteArray) (i : Nat) (done : List UInt8) :
    ByteArray.toList.loop bytes i done = done.reverse ++ bytes.data.toList.drop i := by
  fun_induction ByteArray.toList.loop bytes i done with
  | case1 i done h ih =>
    have hi : i < bytes.data.toList.length := h
    have hbyte : bytes.get! i = bytes.data.toList[i] := getElem!_pos bytes.data i h
    rw [ih, List.drop_eq_getElem_cons hi, hbyte, List.reverse_cons, List.append_assoc,
      List.singleton_append]
  | case2 i done h =>
    rw [List.drop_eq_nil_of_le (Nat.le_of_not_lt h), List.append_nil]

/-- **Texts are read back** from UTF-8. -/
theorem ofUtf8?_utf8 (text : Text) : ofUtf8? (utf8 text) = some text := by
  -- the library knows that the bytes of a string are valid
  have hbytes : (⟨(utf8 text).toArray⟩ : ByteArray) = (String.ofList text).toUTF8 := by
    rw [utf8, ByteArray.toList, toList_loop]
    rfl
  have hvalid : String.fromUTF8? (String.ofList text).toUTF8 = some (String.ofList text) :=
    dif_pos (String.ofList text).isValidUTF8
  rw [ofUtf8?, hbytes, hvalid, Option.map_some, String.toList_ofList]

theorem ofInt32_lt (n : Int32) : ofInt32 n < numberBound := by
  rw [ofInt32, numberBound]
  omega

/-- **Signed numbers are read back** from their low 32 bits. -/
@[simp] theorem int32_ofInt32 (n : Int32) : int32 (ofInt32 n) = n := by
  have hlt := n.toInt_lt
  have hle := n.le_toInt
  apply Int32.toInt_inj.mp
  rw [int32, ofInt32, Int32.toInt_ofNat', Int.toNat_of_nonneg (by omega), Int.bmod, Int32.size]
  omega

/-! ## Keys and lengths -/

variable {rest payload : Bytes} {n tag : Nat}

theorem length_writeVarint_pos (n : Nat) : 0 < (writeVarint n).length :=
  List.length_pos_of_ne_nil (writeVarint_ne_nil n)

theorem readNumber_writeVarint (h : n < numberBound) (rest : Bytes) :
    readNumber (writeVarint n ++ rest) = .ok (n, rest) := by
  rw [readNumber, readVarint?_writeVarint h]

/-- Whether keys can hold the number of a field. -/
def IsTag (tag : Nat) : Prop :=
  0 < tag ∧ tag * 8 + 8 ≤ keyBound

instance (tag : Nat) : Decidable (IsTag tag) :=
  inferInstanceAs (Decidable (0 < tag ∧ tag * 8 + 8 ≤ keyBound))

/-- **Keys are read back.** -/
theorem readKey_writeKey (htag : IsTag tag) (wire : WireType) (rest : Bytes) :
    readKey (writeKey tag wire ++ rest) = .ok (tag, wire, rest) := by
  obtain ⟨hpos, hbound⟩ := htag
  have hwire := wire.toNat_lt
  have hkey : ¬keyBound ≤ tag * 8 + wire.toNat := by omega
  have hnumber : tag * 8 + wire.toNat < numberBound := by
    simp only [keyBound, numberBound] at hbound ⊢
    omega
  -- the wire type takes three bits, so it does not reach into the number of the field
  have hmod : (tag * 8 + wire.toNat) % 8 = wire.toNat := by omega
  have hdiv : (tag * 8 + wire.toNat) / 8 = tag := by omega
  have htag : ¬tag = 0 := by omega
  rw [readKey, writeKey, readNumber_writeVarint hnumber]
  simp only [bind, Except.bind, if_neg hkey, hmod, hdiv, WireType.ofNat?_toNat, if_neg htag]
  rfl

theorem length_le_length_delimited (payload : Bytes) :
    payload.length ≤ (delimited payload).length := by
  rw [delimited, List.length_append]
  exact Nat.le_add_left _ _

/-- **Lengths are read back**, as the payload is there. -/
theorem readLength_delimited (h : (delimited payload).length < numberBound) (rest : Bytes) :
    readLength (delimited payload ++ rest) = .ok (payload.length, payload ++ rest) := by
  have hlength : payload.length < numberBound :=
    Nat.lt_of_le_of_lt (length_le_length_delimited payload) h
  have hle : payload.length ≤ (payload ++ rest).length := by
    rw [List.length_append]
    exact Nat.le_add_right _ _
  rw [readLength, delimited, List.append_assoc, readNumber_writeVarint hlength]
  simp only [bind, Except.bind, if_pos hle]
  rfl

/-- What is left behind a payload is what follows it. -/
theorem length_append_sub_length (payload rest : Bytes) :
    (payload ++ rest).length - payload.length = rest.length := by
  rw [List.length_append, Nat.add_sub_cancel_left]

theorem length_le_length_flatMap_writeVarint (numbers : List Nat) :
    numbers.length ≤ (numbers.flatMap writeVarint).length := by
  induction numbers with
  | nil => exact Nat.le_refl 0
  | cons n numbers ih =>
    have hpos := length_writeVarint_pos n
    rw [List.flatMap_cons, List.length_append, List.length_cons]
    omega

/-- **Packed numbers are read back.** -/
theorem readPacked_flatMap {numbers : List Nat} (h : ∀ n ∈ numbers, n < numberBound)
    {steps : Nat} (hsteps : numbers.length ≤ steps) (rest : Bytes) :
    readPacked rest.length steps (numbers.flatMap writeVarint ++ rest) = .ok (numbers, rest) := by
  induction numbers generalizing steps with
  | nil =>
    cases steps with
    | zero => rfl
    | succ steps => exact if_pos (Nat.le_refl _)
  | cons n numbers ih =>
    obtain ⟨hn, hnumbers⟩ := List.forall_mem_cons.mp h
    cases steps with
    | zero => simp at hsteps
    | succ steps =>
      -- a number takes a byte at least, so the end is not yet reached
      have hpos := length_writeVarint_pos n
      have hmore : ¬((n :: numbers).flatMap writeVarint ++ rest).length ≤ rest.length := by
        rw [List.flatMap_cons, List.length_append, List.length_append]
        omega
      rw [readPacked, if_neg hmore, List.flatMap_cons, List.append_assoc,
        readNumber_writeVarint hn]
      have hrest := ih hnumbers (Nat.le_of_succ_le_succ hsteps)
      simp only [bind, Except.bind, hrest]
      rfl

/-! ## Fields -/

mutual

/-- **How deeply messages are nested** in a field, with its own if it is one. -/
def Field.depth : Field → Nat
  | .message _ fields => Field.depthOf fields + 1
  | .number .. | .packed .. | .fixed64 .. | .text .. | .bytes .. => 0

/-- **How deeply messages are nested** in fields: the most for one of them. -/
def Field.depthOf : List Field → Nat
  | [] => 0
  | field :: rest => max field.depth (Field.depthOf rest)

end

variable {T : Type} {schema : Schema T} {type inner : T} {field : Field} {fields : List Field}

theorem Field.depthOf_le_iff : Field.depthOf fields ≤ n ↔ ∀ field ∈ fields, field.depth ≤ n := by
  induction fields with
  | nil => simp [depthOf]
  | cons field fields ih => rw [depthOf, Nat.max_le, ih, List.forall_mem_cons]

/-- The kind of the field with a number, if messages of the type have one. -/
def Schema.kind? (schema : Schema T) (type : T) (tag : Nat) : Option (FieldKind T) :=
  (schema.field? type tag).map (·.kind)

/-- **A field that messages of a type may have**: its number belongs to a field of its kind, and the
numbers in it are within bounds. -/
inductive Schema.Knows (schema : Schema T) : T → Field → Prop where
  | number {type : T} {tag n : Nat} (hkind : schema.kind? type tag = some .number)
      (hn : n < numberBound) : schema.Knows type (.number tag n)
  | packed {type : T} {tag : Nat} {numbers : List Nat}
      (hkind : schema.kind? type tag = some .numbers) (hnumbers : ∀ n ∈ numbers, n < numberBound) :
      schema.Knows type (.packed tag numbers)
  | text {type : T} {tag : Nat} {text : Text} (hkind : schema.kind? type tag = some .text) :
      schema.Knows type (.text tag text)
  | message {type inner : T} {tag : Nat} {fields : List Field}
      (hkind : schema.kind? type tag = some (.message inner))
      (hfields : ∀ field ∈ fields, schema.Knows inner field) :
      schema.Knows type (.message tag fields)

/-- **A field is read as it was written**, whatever follows it, and reading goes on behind it. -/
def Schema.ReadsBack (schema : Schema T) (type : T) (field : Field) : Prop :=
  ∀ (steps depth left : Nat) (rest : Bytes), field.depth ≤ depth →
    (encodeField field).length ≤ steps + 1 → (encodeField field).length < numberBound →
    left ≤ rest.length →
    readFields schema (steps + 1) type depth left (encodeField field ++ rest) =
      (readFields schema steps type depth left rest).map fun (values, behind) =>
        (field :: values, behind)

theorem length_encodeField_pos (field : Field) : 0 < (encodeField field).length := by
  have hkey (tag : Nat) (wire : WireType) : 0 < (writeKey tag wire).length :=
    length_writeVarint_pos _
  cases field <;> simp only [encodeField, List.length_append] <;>
    exact Nat.add_pos_left (hkey _ _) _

/-- **The fields of a message are read back** if each of them is. -/
theorem readFields_encodeFields (hfields : ∀ field ∈ fields, schema.ReadsBack type field)
    {steps depth : Nat} (hdepth : Field.depthOf fields ≤ depth)
    (hsteps : (encodeFields fields).length ≤ steps)
    (hbound : (encodeFields fields).length < numberBound) (rest : Bytes) :
    readFields schema steps type depth rest.length (encodeFields fields ++ rest) =
      .ok (fields, rest) := by
  induction fields generalizing steps with
  | nil =>
    cases steps with
    | zero => rfl
    | succ steps => exact if_pos (Nat.le_refl _)
  | cons field fields ih =>
    obtain ⟨hfield, hfields⟩ := List.forall_mem_cons.mp hfields
    have hpos := length_encodeField_pos field
    rw [Field.depthOf] at hdepth
    rw [encodeFields, List.length_append] at hsteps hbound
    -- a field takes a byte at least, so the steps that are left suffice for the bytes that are left
    cases steps with
    | zero => omega
    | succ steps =>
      have hrest : readFields schema steps type depth rest.length (encodeFields fields ++ rest) =
          .ok (fields, rest) := ih hfields (by omega) (by omega) (by omega)
      rw [encodeFields, List.append_assoc,
        hfield steps depth rest.length _ (by omega) (by omega) (by omega) (by simp), hrest]
      rfl

/-- A field without inner fields is read back if its payload is. -/
theorem readsBack_plain {kind : FieldKind T} {wire : WireType} (htag : IsTag tag)
    (hkind : schema.kind? type tag = some kind) (hplain : ∀ inner, kind ≠ .message inner)
    (hencode : encodeField field = writeKey tag wire ++ payload)
    (hread : payload.length < numberBound →
      ∀ rest, readPlain tag kind wire (payload ++ rest) = .ok (field, rest)) :
    schema.ReadsBack type field := by
  intro steps depth left rest _ _ hbound hleft
  obtain ⟨known, hknown, rfl⟩ := Option.map_eq_some_iff.mp hkind
  have hpos := length_encodeField_pos field
  have hmore : ¬(encodeField field ++ rest).length ≤ left := by
    rw [List.length_append]
    omega
  have hpayload : payload.length < numberBound := by
    rw [hencode, List.length_append] at hbound
    omega
  rw [readFields, if_neg hmore, hencode, List.append_assoc, readKey_writeKey htag]
  simp only [bind, Except.bind, hknown]
  -- fields of message type are read in another way
  cases hknownKind : known.kind with
  | message inner => exact absurd hknownKind (hplain inner)
  | _ =>
    have hvalue := hread hpayload rest
    rw [hknownKind] at hvalue
    simp only [hvalue, Except.mapError]
    cases readFields schema steps type depth left rest <;> rfl

/-- **A message is read back** if the fields in it are. -/
theorem readsBack_message (htag : IsTag tag)
    (hkind : schema.kind? type tag = some (.message inner))
    (hfields : ∀ field ∈ fields, schema.ReadsBack inner field) :
    schema.ReadsBack type (.message tag fields) := by
  intro steps depth left rest hdepth hsteps hbound hleft
  obtain ⟨known, hknown, hknownKind⟩ := Option.map_eq_some_iff.mp hkind
  have hmore : ¬(encodeField (.message tag fields) ++ rest).length ≤ left := by
    have hpos := length_encodeField_pos (.message tag fields)
    rw [List.length_append]
    omega
  have hkey : 0 < (writeKey tag .lengthDelimited).length := length_writeVarint_pos _
  have hpayload := length_le_length_delimited (encodeFields fields)
  rw [encodeField, List.length_append] at hsteps hbound
  rw [Field.depth] at hdepth
  have hdeep : ¬depth = 0 := by omega
  -- the fields inside take one level of the depth, and leave what follows the message
  have hinner : readFields schema steps inner (depth - 1) rest.length (encodeFields fields ++ rest) =
      .ok (fields, rest) :=
    readFields_encodeFields hfields (by omega) (by omega) (by omega) rest
  have hlength : (delimited (encodeFields fields)).length < numberBound := by omega
  rw [readFields, if_neg hmore, encodeField, List.append_assoc, readKey_writeKey htag]
  simp only [bind, Except.bind, hknown, hknownKind, expect, if_true, if_neg hdeep,
    readLength_delimited hlength, length_append_sub_length, hinner, expectEnd, pure, Except.pure,
    Except.mapError]
  cases readFields schema steps type depth left rest <;> rfl

/-- Whether keys can hold the numbers of all fields. -/
def Schema.IsNumbered (schema : Schema T) : Prop :=
  ∀ type, ∀ known ∈ schema.fields type, IsTag known.tag

theorem Schema.IsNumbered.isTag (h : schema.IsNumbered) {kind : FieldKind T}
    (hkind : schema.kind? type tag = some kind) : IsTag tag := by
  obtain ⟨known, hknown, -⟩ := Option.map_eq_some_iff.mp hkind
  -- the field was found by its number
  have htag : known.tag = tag := by simpa using List.find?_some hknown
  exact htag ▸ h type known (List.mem_of_find?_eq_some hknown)

/-- **Every known field is read back.** -/
theorem Schema.Knows.readsBack (hschema : schema.IsNumbered) (h : schema.Knows type field) :
    schema.ReadsBack type field := by
  induction h with
  | number hkind hn =>
    apply readsBack_plain (hschema.isTag hkind) hkind (by simp) rfl
    intro _ rest
    simp only [readPlain, expect, if_true, readNumber_writeVarint hn, bind, Except.bind]
    rfl
  | @packed _ _ numbers hkind hnumbers =>
    apply readsBack_plain (hschema.isTag hkind) hkind (by simp) rfl
    intro hbound rest
    -- the reader of packed numbers has a step for every byte
    have hsteps : numbers.length ≤ (numbers.flatMap writeVarint ++ rest).length := by
      have hlength := length_le_length_flatMap_writeVarint numbers
      rw [List.length_append]
      omega
    simp only [readPlain, if_true, readLength_delimited hbound, length_append_sub_length,
      readPacked_flatMap hnumbers hsteps, expectEnd, bind, Except.bind]
    rfl
  | @text _ _ text hkind =>
    apply readsBack_plain (hschema.isTag hkind) hkind (by simp) rfl
    intro hbound rest
    simp only [readPlain, expect, if_true, readLength_delimited hbound, List.take_left,
      List.drop_left, ofUtf8?_utf8, bind, Except.bind]
    rfl
  | message hkind _ ih => exact readsBack_message (hschema.isTag hkind) hkind ih

/-- **Every message of known fields is read back.** -/
theorem decode_encodeFields (hschema : schema.IsNumbered)
    (hfields : ∀ field ∈ fields, schema.Knows type field)
    (hdepth : Field.depthOf fields ≤ depthLimit)
    (hbound : (encodeFields fields).length < numberBound) :
    decode schema type (encodeFields fields) = .ok fields := by
  -- the message ends where the bytes do
  have hread := readFields_encodeFields
    (fun field hfield => (hfields field hfield).readsBack hschema) hdepth (Nat.le_succ _) hbound []
  rw [List.append_nil, List.length_nil] at hread
  rw [decode, hread]
  rfl

end EnumCodegen.Protobuf
