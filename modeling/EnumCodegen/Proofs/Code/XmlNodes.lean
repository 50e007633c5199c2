import EnumCodegen.Proofs.Code.Legality
import EnumCodegen.Proofs.Text.UpperCamel

/-!
# Which fields of a message have XML nodes of their own

The binding of a field is named after the `snake` form of the field's name. An attribute has the name
of the field as it is, so where bindings differ attributes do too. An element has the name in
`UpperCamel` form, which does not show an underscore before a digit: fields whose names differ in
such underscores only have bindings of their own, and one element.

## Main results

* `FileDescriptor.ofDescriptor_nodes`: which fields of a message share a node
-/

namespace EnumCodegen

open CharClass

/-- Two fields of one message have one binding name if and only if their names agree in `snake`
case. -/
theorem bindingName_eq_iff {field field' : EnumField}
    (hpath : field.messagePath = field'.messagePath) :
    bindingName field = bindingName field' ↔ Text.snake field.name = Text.snake field'.name := by
  have hsnake : bindingName field = bindingName field' ↔ field.snakeKey = field'.snakeKey :=
    List.append_left_inj _
  rw [hsnake, EnumField.snakeKey, EnumField.snakeKey, Identifier.flatSnake_eq_iff, hpath,
    List.map_append, List.map_append, List.append_right_inj, List.map_singleton, List.map_singleton,
    List.singleton_inj]

namespace FileDescriptor

variable {file : FileDescriptor} {field field' : EnumField}

/-- An attribute has the name of its field. -/
theorem name_of_attribute (h : field ∈ (EnumSchema.ofDescriptor file).fields) {name : Text}
    (hnode : field.node = .attribute name) : name = field.name := by
  rcases node_of_mem_fields h with h | h
  · exact XmlNode.attribute.inj (hnode.symm.trans h)
  · rw [hnode] at h
    cases h

/-- An element has the name of its field in `UpperCamel` form. -/
theorem name_of_element (h : field ∈ (EnumSchema.ofDescriptor file).fields) {name : Text}
    (hnode : field.node = .element name) : name = Text.upperCamel field.name := by
  rcases node_of_mem_fields h with h | h
  · rw [hnode] at h
    cases h
  · exact XmlNode.element.inj (hnode.symm.trans h)

/-- **Which fields of a message share a node.** If the names of the fields of a file are ASCII, two
listed fields of one message have bindings with different names if and only if their names differ in
`snake` case. Then no attribute serves both. One element serves both if and only if their names in
`snake` case agree but for the underscores before digits. -/
theorem ofDescriptor_nodes (file : FileDescriptor)
    (hfields : ∀ name ∈ file.fieldNames, ∀ c ∈ name, isAscii c = true) :
    ∀ field ∈ (EnumSchema.ofDescriptor file).fields,
      ∀ field' ∈ (EnumSchema.ofDescriptor file).fields, field.messagePath = field'.messagePath →
        (bindingName field = bindingName field' ↔
          Text.snake field.name = Text.snake field'.name) ∧
        (Text.snake field.name ≠ Text.snake field'.name → ∀ name name',
          field.node = .attribute name → field'.node = .attribute name' → name ≠ name') ∧
        ∀ name name', field.node = .element name → field'.node = .element name' →
          (name = name' ↔ Text.withoutDigitBreaks (Text.snake field.name) =
            Text.withoutDigitBreaks (Text.snake field'.name)) := by
  intro field hfield field' hfield' hpath
  refine ⟨bindingName_eq_iff hpath, ?_, ?_⟩
  · -- fields with one attribute name have one name, and so one `snake` form
    rintro hne name name' hnode hnode' rfl
    apply hne
    rw [← name_of_attribute hfield hnode, ← name_of_attribute hfield' hnode']
  · -- the elements have the names in `UpperCamel` form
    intro name name' hnode hnode'
    have hascii := hfields field.name (mem_fieldNames hfield).2
    have hascii' := hfields field'.name (mem_fieldNames hfield').2
    rw [name_of_element hfield hnode, name_of_element hfield' hnode']
    exact Text.upperCamel_eq_iff hascii hascii'

/-- A file with one enum, and a message with three fields for it. -/
def kindFields : FileDescriptor where
  enums := [{ name? := "Kind".toList, values := [{ name? := "KIND_A".toList }] }]
  messages :=
    [{ name? := "Holder".toList
       fields := ["kind1", "kind_1", "kind_a"].map fun name : String =>
        { name? := name.toList, type? := some 14, typeName? := ".Kind".toList } }]

/-- A listed field of `kindFields`. -/
def kindField (name element : Text) : EnumField where
  messagePath := ["Holder".toList]
  name := name
  enumIndex := 0
  storage := .optional
  node := .element element

/-- The fields of `kindFields`. -/
theorem fields_kindFields : (EnumSchema.ofDescriptor kindFields).fields =
    [kindField "kind1" "Kind1", kindField "kind_1" "Kind1", kindField "kind_a" "KindA"] :=
  rfl

/-- The fields `kind1` and `kind_a` have elements of their own, and the fields `kind1` and `kind_1`
one element. -/
theorem ofDescriptor_nodes_kindFields :
    (∀ name ∈ kindFields.fieldNames, ∀ c ∈ name, isAscii c = true) ∧
    ∃ plain ∈ (EnumSchema.ofDescriptor kindFields).fields,
      ∃ numbered ∈ (EnumSchema.ofDescriptor kindFields).fields,
      ∃ lettered ∈ (EnumSchema.ofDescriptor kindFields).fields,
        (plain.node = .element "Kind1" ∧ lettered.node = .element "KindA" ∧
          ("Kind1".toList : Text) ≠ "KindA") ∧
        plain.node = .element "Kind1" ∧ numbered.node = .element "Kind1" ∧
          Text.withoutDigitBreaks (Text.snake plain.name) =
            Text.withoutDigitBreaks (Text.snake numbered.name) := by
  have hall : kindFields.fieldNames.flatten.all isAscii = true := rfl
  have hascii : ∀ name ∈ kindFields.fieldNames, ∀ c ∈ name, isAscii c = true := fun name hname c hc =>
    List.all_eq_true.mp hall c (List.mem_flatten.mpr ⟨name, hname, hc⟩)
  have hplain : kindField "kind1" "Kind1" ∈ (EnumSchema.ofDescriptor kindFields).fields := by
    simp [fields_kindFields]
  have hnumbered : kindField "kind_1" "Kind1" ∈ (EnumSchema.ofDescriptor kindFields).fields := by
    simp [fields_kindFields]
  have hlettered : kindField "kind_a" "KindA" ∈ (EnumSchema.ofDescriptor kindFields).fields := by
    simp [fields_kindFields]
  obtain ⟨-, -, hdistinct⟩ := ofDescriptor_nodes kindFields hascii _ hplain _ hlettered rfl
  obtain ⟨-, -, hshared⟩ := ofDescriptor_nodes kindFields hascii _ hplain _ hnumbered rfl
  refine ⟨hascii, _, hplain, _, hnumbered, _, hlettered, ⟨rfl, rfl, ?_⟩, rfl, rfl, ?_⟩
  · rw [ne_eq, hdistinct _ _ rfl rfl]
    decide
  · exact (hshared _ _ rfl rfl).mp rfl

/-- **Fields with bindings of their own may share an element**: the fields `kind1` and `kind_1` of
one message are both the element `Kind1`. -/
theorem nodes_kind1 :
    (∀ name ∈ kindFields.fieldNames, Identifier.IsPlain name) ∧
    ∃ field ∈ (EnumSchema.ofDescriptor kindFields).fields,
      ∃ field' ∈ (EnumSchema.ofDescriptor kindFields).fields,
        field.messagePath = field'.messagePath ∧
        Text.snake field.name ≠ Text.snake field'.name ∧ bindingName field ≠ bindingName field' ∧
        field.node = .element "Kind1" ∧ field'.node = .element "Kind1" := by
  have hplain : kindField "kind1" "Kind1" ∈ (EnumSchema.ofDescriptor kindFields).fields := by
    simp [fields_kindFields]
  have hnumbered : kindField "kind_1" "Kind1" ∈ (EnumSchema.ofDescriptor kindFields).fields := by
    simp [fields_kindFields]
  have hsnake : Text.snake "kind1" ≠ Text.snake "kind_1" := by decide
  refine ⟨by decide, _, hplain, _, hnumbered, rfl, hsnake, ?_, rfl, rfl⟩
  intro hbinding
  rw [bindingName_eq_iff] at hbinding
  · exact hsnake hbinding
  · rfl

end FileDescriptor

end EnumCodegen
