import EnumCodegen.Code.Render
import EnumCodegen.Proofs.Schema.Erasure

/-!
# What code for a file does not depend on

No code depends on numbers: neither on those of values and fields nor on the spans of source
locations. JSON code depends on names alone, since every enum gets its items from its own name, from
the names of the messages around it and from the names of its values.

## Main results

* `formatItems_congr`: what the items for an enum in a text format depend on
* `FileDescriptor.render?_json_names`: the JSON code for a file of names alone
* `FileDescriptor.render?_withoutNumbers`: the code for a file without numbers
* `FileDescriptor.render?_insensitive`: files with the same code
-/

namespace EnumCodegen

/-! ## Enums -/

namespace DeclaredEnum

variable {enum enum' : DeclaredEnum}

theorem wireNames_congr (hname : enum.name = enum'.name)
    (hvalues : enum.values.map (·.name) = enum'.values.map (·.name)) :
    enum.wireNames = enum'.wireNames := by
  rw [wireNames, wireNames, hname, hvalues]

theorem name_values_withoutNumbers (enum : DeclaredEnum) :
    enum.withoutNumbers.values.map (·.name) = enum.values.map (·.name) :=
  List.map_map

theorem wireNames_withoutNumbers (enum : DeclaredEnum) :
    enum.withoutNumbers.wireNames = enum.wireNames :=
  wireNames_congr rfl enum.name_values_withoutNumbers

end DeclaredEnum

/-- **The items for an enum in a text format** depend on its name, on the messages around it and on
the names of its values. -/
theorem formatItems_congr {enum enum' : DeclaredEnum} (format : TextFormat)
    (hname : enum.name = enum'.name) (hnesting : enum.nesting = enum'.nesting)
    (hvalues : enum.values.map (·.name) = enum'.values.map (·.name)) :
    formatItems format enum = formatItems format enum' := by
  have htype : enum.typePath = enum'.typePath := by
    rw [DeclaredEnum.typePath, DeclaredEnum.typePath, hnesting, hname]
  have hkey : enum.snakeKey = enum'.snakeKey := by
    rw [DeclaredEnum.snakeKey, DeclaredEnum.snakeKey, hnesting, hname]
  rw [formatItems, formatItems, traitImpl, traitImpl, adapterModule, adapterModule, adapterName,
    adapterName, DeclaredEnum.wireNames_congr hname hvalues, hname, htype, hkey]

theorem formatItems_withoutNumbers (format : TextFormat) (enum : DeclaredEnum) :
    formatItems format enum.withoutNumbers = formatItems format enum :=
  formatItems_congr format rfl rfl enum.name_values_withoutNumbers

/-- **The GraphQL declaration of an enum** does not depend on numbers. -/
theorem GraphQL.declarationText_withoutNumbers (enum : DeclaredEnum) :
    declarationText enum.withoutNumbers = declarationText enum := by
  have hvalues (lines : DeclaredValue → List Text)
      (h : ∀ value, lines value.withoutNumber = lines value) :
      enum.withoutNumbers.values.flatMap lines = enum.values.flatMap lines := by
    rw [DeclaredEnum.withoutNumbers, List.flatMap_map]
    simp only [h]
  -- the lines for a value are made of its comment and its name
  rw [declarationText, declarationText, declarationLines, declarationLines,
    enum.wireNames_withoutNumbers, hvalues _ fun _ => rfl]
  rfl

theorem declarationConstant_withoutNumbers (enum : DeclaredEnum) :
    declarationConstant enum.withoutNumbers = declarationConstant enum := by
  rw [declarationConstant, declarationConstant, GraphQL.declarationText_withoutNumbers]
  rfl

/-- A field finds its enum by index, and the binding takes its flat name from it. -/
theorem fieldBinding?_withoutNumbers (enums : List DeclaredEnum) (field : EnumField) :
    fieldBinding? (enums.map (·.withoutNumbers)) field = fieldBinding? enums field := by
  rw [fieldBinding?, fieldBinding?, List.getElem?_map, Option.map_map]
  rfl

namespace EnumSchema

variable {mode : Mode}

/-- The code for a file consists of its name and its items. -/
theorem render?_congr {file file' : EnumSchema} (hname : file.name = file'.name)
    (henums : file.hasEnums = file'.hasEnums) (hitems : file.items mode = file'.items mode) :
    file.render? mode = file'.render? mode := by
  rw [render?, render?, codeLines, codeLines, headerLines, headerLines, henums, hname, hitems]

theorem enums_withoutNumbers (file : EnumSchema) :
    file.withoutNumbers.enums = file.enums.map (·.withoutNumbers) := rfl

theorem schemaConstant_withoutNumbers (file : EnumSchema) :
    file.withoutNumbers.schemaConstant = file.schemaConstant := by
  have htexts : file.withoutNumbers.enums.map GraphQL.declarationText =
      file.enums.map GraphQL.declarationText := by
    rw [enums_withoutNumbers, List.map_map]
    exact List.map_congr_left fun enum _ => GraphQL.declarationText_withoutNumbers enum
  rw [schemaConstant, schemaConstant, htexts]
  rfl

/-- **The items for a file** do not depend on numbers. -/
theorem items_withoutNumbers (file : EnumSchema) (mode : Mode) :
    file.withoutNumbers.items mode = file.items mode := by
  have hformat (format : TextFormat) : file.withoutNumbers.enums.flatMap (formatItems format) =
      file.enums.flatMap (formatItems format) := by
    rw [enums_withoutNumbers, List.flatMap_map]
    simp only [formatItems_withoutNumbers]
  cases mode with
  | xml =>
    have hbindings : fieldBinding? file.withoutNumbers.enums = fieldBinding? file.enums := by
      funext field
      exact fieldBinding?_withoutNumbers file.enums field
    rw [items, items, hformat, hbindings]
    rfl
  | json => exact hformat .json
  | graphQL =>
    have hconstants : file.withoutNumbers.enums.map declarationConstant =
        file.enums.map declarationConstant := by
      rw [enums_withoutNumbers, List.map_map]
      exact List.map_congr_left fun enum _ => declarationConstant_withoutNumbers enum
    rw [items, items, hconstants, schemaConstant_withoutNumbers]

end EnumSchema

/-! ## Files -/

/-- The values of a declaration have the names of the values of the enum. -/
theorem EnumNode.name_values_declaration (file : FileDescriptor) (node : EnumNode) :
    (node.declaration file).values.map (·.name) = node.enum.values.map (·.name) := by
  apply map_mapIdx_of_forall
  intro i value
  rfl

namespace FileDescriptor

open EnumSchema

/-- **The JSON code for a file is that for the file of its names alone.** -/
theorem render?_json_names (file : FileDescriptor) :
    (ofDescriptor file.names).render? .json = (ofDescriptor file).render? .json := by
  have hmessages : file.names.messages =
      MessageDescriptor.reducedAll (fun _ => []) file.messages := rfl
  have henums : (ofDescriptor file.names).enums =
      file.enumNodes.map fun node => node.withoutNumbers.declaration file.names := by
    change file.names.enumNodes.map _ = _
    rw [enumNodes_reduced rfl hmessages, List.map_map]
    rfl
  apply render?_congr
  · rfl
  · rw [hasEnums, hasEnums, henums, List.isEmpty_map]
    exact congrArg not List.isEmpty_map.symm
  · rw [items, items, henums, List.flatMap_map]
    change _ = (file.enumNodes.map (·.declaration file)).flatMap _
    rw [List.flatMap_map]
    refine List.flatMap_congr fun node _ => ?_
    -- the declarations may differ in full names, comments and numbers, which the items do not have
    apply formatItems_congr
    · rfl
    · rfl
    · rw [EnumNode.name_values_declaration, EnumNode.name_values_declaration]
      exact node.enum.name_values_withoutNumbers

/-- **The code for a file is that for the file without numbers.** -/
theorem render?_withoutNumbers (file : FileDescriptor) (mode : Mode) :
    (ofDescriptor file.withoutNumbers).render? mode = (ofDescriptor file).render? mode := by
  rw [ofDescriptor_withoutNumbers]
  apply render?_congr
  · rfl
  · exact congrArg not List.isEmpty_map
  · exact items_withoutNumbers _ mode

/-- **Files with the same code.** Two files with one name and one tree of message, enum and value
names have the same JSON code, whatever their packages, dialects, options, fields, comments and
numbers are. Two files that differ in the numbers of values, the numbers of fields and the spans of
source locations only have the same code in every mode. -/
theorem render?_insensitive (file file' : FileDescriptor) :
    (file.names = file'.names →
      (ofDescriptor file).render? .json = (ofDescriptor file').render? .json) ∧
    (file.withoutNumbers = file'.withoutNumbers →
      ∀ mode, (ofDescriptor file).render? mode = (ofDescriptor file').render? mode) := by
  constructor
  · intro h
    rw [← file.render?_json_names, h, file'.render?_json_names]
  · intro h mode
    rw [← file.render?_withoutNumbers, h, file'.render?_withoutNumbers]

/-- A file with one message, which holds an enum. -/
def holderFile : FileDescriptor where
  name? := "holder.proto".toList
  messages :=
    [{ name? := "Holder".toList
       enums := [{ name? := "Mood".toList, values := [{ name? := "MOOD_HAPPY".toList }] }] }]

/-- The same names with a package, a dialect, a field of the enum and a comment on it, and with
numbers that are counted from a number on. -/
def richHolderFile (first : Int32) : FileDescriptor where
  name? := "holder.proto".toList
  package? := "demo".toList
  dialect? := "proto3".toList
  options? := some { goPackage? := "example.com/demo".toList }
  messages :=
    [{ name? := "Holder".toList
       fields :=
        [{ name? := "mood".toList, number? := first, type? := some 14,
           typeName? := ".demo.Holder.Mood".toList }]
       enums :=
        [{ name? := "Mood".toList
           values := [{ name? := "MOOD_HAPPY".toList, number? := some (first + 1) }] }] }]
  source? := some
    ⟨[{ path := [4, 0, 2, 0], span := [first, 0, 9], leading? := some "xml:attr".toList }]⟩

/-- Files with the names of `holderFile` have its JSON code, and whatever their numbers are they have
the same code in every mode. -/
theorem render?_insensitive_holderFile :
    (holderFile.names = (richHolderFile 1).names ∧
      (ofDescriptor holderFile).render? .json = (ofDescriptor (richHolderFile 1)).render? .json) ∧
    ((richHolderFile 1).withoutNumbers = (richHolderFile 7).withoutNumbers ∧
      ∀ mode, (ofDescriptor (richHolderFile 1)).render? mode =
        (ofDescriptor (richHolderFile 7)).render? mode) ∧
    ∀ mode, ((ofDescriptor (richHolderFile 7)).render? mode).isSome = true := by
  have hnames : holderFile.names = (richHolderFile 1).names := rfl
  have hnumbers : (richHolderFile 1).withoutNumbers = (richHolderFile 7).withoutNumbers := rfl
  obtain ⟨hjson, -⟩ := render?_insensitive holderFile (richHolderFile 1)
  obtain ⟨-, hmodes⟩ := render?_insensitive (richHolderFile 1) (richHolderFile 7)
  exact ⟨⟨hnames, hjson hnames⟩, ⟨hnumbers, hmodes hnumbers⟩, fun _ => rfl⟩

end FileDescriptor

end EnumCodegen
