import EnumCodegen.Proofs.Protobuf.Reading

/-!
# The values of written fields

The fields of a record are written group by group, each group under a number of its own: texts,
numbers or messages, none or one or many. The values under a number are then those of its group, for
the other groups hold nothing under it.

## Main results

* `Protobuf.texts_text`, `Protobuf.numbers_number`, `Protobuf.submessages_message`: the values of a
  group
* `Protobuf.getLast?_toList`, `Protobuf.submessage?_of_toList`: optional values
* `Protobuf.Schema.knows_messages`: a message type knows the fields of a group that it describes
-/

namespace EnumCodegen.Protobuf

variable {α : Type} (tag tag' : Nat) (items : List α)

@[simp] theorem getLast?_toList (value? : Option α) : value?.toList.getLast? = value? := by
  cases value? <;> rfl

/-- An optional text is written as a list of at most one. -/
@[simp] theorem textField_eq (text? : Option Text) :
    textField tag text? = text?.toList.map (.text tag) :=
  Option.toList_map

/-- An optional number is written as a list of at most one. -/
@[simp] theorem int32Field_eq (n? : Option Int32) :
    int32Field tag n? = n?.toList.map fun n => .number tag (ofInt32 n) :=
  Option.toList_map

/-! ## Texts -/

@[simp] theorem texts_append (fields fields' : List Field) :
    texts tag (fields ++ fields') = texts tag fields ++ texts tag fields' :=
  List.filterMap_append

@[simp] theorem texts_text (list : List Text) :
    texts tag (list.map (.text tag')) = if tag' = tag then list else [] := by
  split <;> simp [texts, List.filterMap_map, *]

@[simp] theorem texts_number (value : α → Nat) :
    texts tag (items.map fun item => .number tag' (value item)) = [] := by
  simp [texts, List.filterMap_map]

@[simp] theorem texts_message (value : α → List Field) :
    texts tag (items.map fun item => .message tag' (value item)) = [] := by
  simp [texts, List.filterMap_map]

@[simp] theorem texts_packedField (list : List Int32) : texts tag (packedField tag' list) = [] := by
  cases list <;> rfl

/-! ## Numbers -/

@[simp] theorem numbers_append (fields fields' : List Field) :
    numbers tag (fields ++ fields') = numbers tag fields ++ numbers tag fields' :=
  List.flatMap_append

@[simp] theorem numbers_text (list : List Text) : numbers tag (list.map (.text tag')) = [] := by
  simp [numbers, List.flatMap_map]

@[simp] theorem numbers_number (value : α → Nat) :
    numbers tag (items.map fun item => .number tag' (value item)) =
      if tag' = tag then items.map value else [] := by
  split <;> simp [numbers, List.flatMap_map, ← List.map_eq_flatMap, *]

@[simp] theorem numbers_message (value : α → List Field) :
    numbers tag (items.map fun item => .message tag' (value item)) = [] := by
  simp [numbers, List.flatMap_map]

@[simp] theorem numbers_packedField (list : List Int32) :
    numbers tag (packedField tag' list) = if tag' = tag then list.map ofInt32 else [] := by
  cases list with
  | nil => simp [packedField, numbers]
  | cons n list => simp [packedField, numbers]

/-! ## Messages -/

@[simp] theorem submessages_append (fields fields' : List Field) :
    submessages tag (fields ++ fields') = submessages tag fields ++ submessages tag fields' :=
  List.filterMap_append

@[simp] theorem submessages_text (list : List Text) :
    submessages tag (list.map (.text tag')) = [] := by
  simp [submessages, List.filterMap_map]

@[simp] theorem submessages_number (value : α → Nat) :
    submessages tag (items.map fun item => .number tag' (value item)) = [] := by
  simp [submessages, List.filterMap_map]

@[simp] theorem submessages_message (value : α → List Field) :
    submessages tag (items.map fun item => .message tag' (value item)) =
      if tag' = tag then items.map value else [] := by
  split <;> simp [submessages, List.filterMap_map, *]

/-- A message in at most one part is merged from nothing else. -/
theorem submessage?_of_toList {fields : List Field} {value? : Option (List Field)}
    (h : submessages tag fields = value?.toList) : submessage? tag fields = value? := by
  rw [submessage?, h]
  cases value? with
  | none => rfl
  | some value => simp

/-! ## Known fields -/

variable {T : Type} {schema : Schema T} {type inner : T} {tag : Nat}

theorem Schema.knows_textFields (hkind : schema.kind? type tag = some .text) (list : List Text) :
    ∀ field ∈ textFields tag list, schema.Knows type field := by
  intro field hfield
  obtain ⟨text, -, rfl⟩ := List.mem_map.mp hfield
  exact .text hkind

theorem Schema.knows_textField (hkind : schema.kind? type tag = some .text) (text? : Option Text) :
    ∀ field ∈ textField tag text?, schema.Knows type field := by
  rw [textField_eq]
  exact knows_textFields hkind _

theorem Schema.knows_numbers (hkind : schema.kind? type tag = some .number) {value : α → Nat}
    {items : List α} (hbound : ∀ item ∈ items, value item < numberBound) :
    ∀ field ∈ items.map fun item => .number tag (value item), schema.Knows type field := by
  intro field hfield
  obtain ⟨item, hitem, rfl⟩ := List.mem_map.mp hfield
  exact .number hkind (hbound item hitem)

theorem Schema.knows_int32Field (hkind : schema.kind? type tag = some .number) (n? : Option Int32) :
    ∀ field ∈ int32Field tag n?, schema.Knows type field := by
  rw [int32Field_eq]
  exact knows_numbers hkind fun n _ => ofInt32_lt n

theorem Schema.knows_packedField (hkind : schema.kind? type tag = some .numbers)
    (list : List Int32) : ∀ field ∈ packedField tag list, schema.Knows type field := by
  intro field hfield
  cases list with
  | nil => simp [packedField] at hfield
  | cons n list =>
    obtain rfl := List.mem_singleton.mp hfield
    apply Schema.Knows.packed hkind
    intro m hm
    obtain ⟨i, -, rfl⟩ := List.mem_map.mp hm
    exact ofInt32_lt i

theorem Schema.knows_messages (hkind : schema.kind? type tag = some (.message inner))
    {value : α → List Field} {items : List α}
    (hinner : ∀ item ∈ items, ∀ field ∈ value item, schema.Knows inner field) :
    ∀ field ∈ items.map fun item => .message tag (value item), schema.Knows type field := by
  intro field hfield
  obtain ⟨item, hitem, rfl⟩ := List.mem_map.mp hfield
  exact .message hkind (hinner item hitem)

end EnumCodegen.Protobuf
