import EnumCodegen.Proofs.Code.Bindings
import EnumCodegen.Proofs.Schema.TypeNames
import EnumCodegen.Proofs.Text.Snake

/-!
# The names of items do not collide

A flat name joins the `snake` forms of its levels by double underscores, so it determines them. On
ASCII names these determine in turn the type of an enum, and the flat name in upper case determines
the one in lower case. So enums whose types differ have items with different names. Items of
different kinds have names that end differently.

## Main definitions

* `ItemKind`: the kinds of items that have a name
* `EnumSchema.itemNames`: the names of the items of a kind

## Main results

* `Identifier.flatSnake_eq_iff`: when two flat names agree
* `Identifier.typePath_eq_of_flatSnake_eq`: enums whose flat names agree have one type
* `FileDescriptor.ofDescriptor_itemNames`: the names of the items for a file
-/

namespace EnumCodegen

open CharClass

/-! ## Flat names -/

namespace Identifier

variable {nesting nesting' : List Text} {name name' : Text}

/-- **Two flat names agree** if and only if their levels do, one by one. -/
theorem flatSnake_eq_iff :
    flatSnake nesting name = flatSnake nesting' name' ↔
      (nesting ++ [name]).map Text.snake = (nesting' ++ [name']).map Text.snake := by
  constructor
  · intro h
    have hlevels (names : List Text) : ∀ level ∈ names.map Text.snake, Text.IsLevel level := by
      intro level hlevel
      obtain ⟨name, -, rfl⟩ := List.mem_map.mp hlevel
      exact Text.isLevel_snake name
    exact Text.intercalate_isLevel_inj (by simp) (by simp) (hlevels _) (hlevels _) h
  · intro h
    exact congrArg levelSeparator.intercalate h

/-- **Enums whose flat names agree have one type**, if their names are ASCII. -/
theorem typePath_eq_of_flatSnake_eq (hname : ∀ c ∈ name, isAscii c = true)
    (hname' : ∀ c ∈ name', isAscii c = true)
    (h : flatSnake nesting name = flatSnake nesting' name') :
    typePath nesting name = typePath nesting' name' := by
  have hlevels := flatSnake_eq_iff.mp h
  rw [List.map_append, List.map_append] at hlevels
  obtain ⟨hnesting, hsnake⟩ := List.append_inj' hlevels rfl
  -- a module is named by the `snake` form itself, and a type by what this form determines
  have hmodules : nesting.map ofMessage = nesting'.map ofMessage := by
    have hescaped := congrArg (List.map escaped) hnesting
    rwa [List.map_map, List.map_map] at hescaped
  have htype : ofEnum name = ofEnum name' := by
    rw [ofEnum, Text.upperCamel_eq_of_snake_eq hname hname' (List.singleton_inj.mp hsnake), ofEnum]
  rw [typePath, hmodules, htype, typePath]

/-- The flat name of ASCII names comes back from its upper case. -/
theorem map_toLower_flatUpperSnake
    (h : ∀ level ∈ nesting ++ [name], ∀ c ∈ level, isAscii c = true) :
    (flatUpperSnake nesting name).map Char.toLower = flatSnake nesting name := by
  apply Text.map_toLower_uppercase
  intro c hc
  rcases Text.mem_intercalate hc with hc | ⟨part, hpart, hc⟩
  · have hunderscore : c = '_' := by simpa [levelSeparator] using hc
    rw [hunderscore]
    decide
  · obtain ⟨level, hlevel, rfl⟩ := List.mem_map.mp hpart
    exact Text.mem_snake_ascii (h level hlevel) hc

end Identifier

namespace DeclaredEnum

variable {enum enum' : DeclaredEnum}

/-- The names of an enum and of the messages around it are ASCII. -/
def IsAscii (enum : DeclaredEnum) : Prop :=
  ∀ level ∈ enum.nesting ++ [enum.name], ∀ c ∈ level, isAscii c = true

theorem typePath_eq_of_snakeKey_eq (hascii : enum.IsAscii) (hascii' : enum'.IsAscii)
    (h : enum.snakeKey = enum'.snakeKey) : enum.typePath = enum'.typePath :=
  Identifier.typePath_eq_of_flatSnake_eq (hascii enum.name (by simp))
    (hascii' enum'.name (by simp)) h

theorem snakeKey_eq_of_upperKey_eq (hascii : enum.IsAscii) (hascii' : enum'.IsAscii)
    (h : enum.upperKey = enum'.upperKey) : enum.snakeKey = enum'.snakeKey := by
  have hlower := congrArg (List.map Char.toLower) h
  rwa [upperKey, upperKey, Identifier.map_toLower_flatUpperSnake hascii,
    Identifier.map_toLower_flatUpperSnake hascii'] at hlower

/-- **Enums with different types** have items with different names. -/
theorem itemNames_ne (hascii : enum.IsAscii) (hascii' : enum'.IsAscii)
    (htype : enum.typePath ≠ enum'.typePath) :
    enum.snakeKey ≠ enum'.snakeKey ∧ enum.upperKey ≠ enum'.upperKey ∧
      (∀ format, adapterName format enum ≠ adapterName format enum') ∧
      (declarationConstant enum).name ≠ (declarationConstant enum').name := by
  have hsnake : enum.snakeKey ≠ enum'.snakeKey :=
    fun heq => htype (typePath_eq_of_snakeKey_eq hascii hascii' heq)
  have hupper : enum.upperKey ≠ enum'.upperKey :=
    fun heq => hsnake (snakeKey_eq_of_upperKey_eq hascii hascii' heq)
  refine ⟨hsnake, hupper, ?_, ?_⟩
  · intro format heq
    -- the tag of the format stands behind an underscore
    exact hsnake (List.append_cancel_right (List.append_cancel_right heq))
  · intro heq
    exact hupper (List.append_cancel_right heq)

end DeclaredEnum

/-! ## Kinds of items

Every kind has an ending of its own, and the last characters of the endings differ already. -/

/-- **The kinds of items that have a name**: the adapters of a text format, the bindings of fields,
the constants that declare one enum, and the constant that declares all of them. -/
inductive ItemKind where
  | adapter (format : TextFormat)
  | binding
  | enumConstant
  | schemaConstant
  deriving Repr, DecidableEq

/-- The last character of the names of a kind. -/
def ItemKind.lastChar : ItemKind → Char
  | adapter .xml => 'l'
  | adapter .json => 'n'
  | binding => 'd'
  | enumConstant => 'L'
  | schemaConstant => 'A'

theorem ItemKind.lastChar_injective {kind kind' : ItemKind} (h : kind.lastChar = kind'.lastChar) :
    kind = kind' := by
  rcases kind with (_ | _) | _ | _ | _ <;> rcases kind' with (_ | _) | _ | _ | _ <;>
    first | rfl | exact absurd h (by decide)

/-- The kinds of items in the code for a mode. -/
def Mode.itemKinds : Mode → List ItemKind
  | xml => [.adapter .xml, .binding]
  | json => [.adapter .json]
  | graphQL => [.enumConstant, .schemaConstant]

/-- **The names of the items of a kind** for a file. -/
def EnumSchema.itemNames (file : EnumSchema) : ItemKind → List Text
  | .adapter format => file.enums.map (adapterName format)
  | .binding => file.fields.map bindingName
  | .enumConstant => file.enums.map fun enum => (declarationConstant enum).name
  | .schemaConstant => [file.schemaConstant.name]

/-- The name of an item. The implementation of a trait has none. -/
def Item.name? : Item → Option Text
  | traitImpl _ => none
  | adapter a => some a.name
  | binding b => some b.name
  | constant c => some c.name

/-- The names of a kind end alike. -/
theorem EnumSchema.getLast?_of_mem_itemNames {file : EnumSchema} {kind : ItemKind} {name : Text}
    (h : name ∈ file.itemNames kind) : name.getLast? = some kind.lastChar := by
  -- the name is whatever it is made of and then the ending, which is not empty
  have hend (front last : Text) (hlast : last ≠ []) :
      (front ++ last).getLast? = last.getLast? := by
    rw [List.getLast?_append_of_ne_nil _ hlast]
  cases kind with
  | adapter format =>
    obtain ⟨enum, -, rfl⟩ := List.mem_map.mp h
    rw [adapterName, hend]
    · cases format <;> rfl
    · cases format <;> simp [TextFormat.tag]
  | binding =>
    obtain ⟨field, -, rfl⟩ := List.mem_map.mp h
    rw [bindingName, hend _ _ (by simp)]
    rfl
  | enumConstant =>
    obtain ⟨enum, -, rfl⟩ := List.mem_map.mp h
    rw [declarationConstant, hend _ _ (by simp)]
    rfl
  | schemaConstant =>
    rw [List.mem_singleton.mp h, EnumSchema.schemaConstant, EnumSchema.schemaConstantName,
      hend _ _ (by simp)]
    rfl

namespace FileDescriptor

/-- **The items in the code for a mode** have the names of its kinds. -/
theorem filterMap_name?_items (file : FileDescriptor) (mode : Mode) :
    ((EnumSchema.ofDescriptor file).items mode).filterMap Item.name? =
      mode.itemKinds.flatMap (EnumSchema.ofDescriptor file).itemNames := by
  cases mode with
  | xml =>
    -- every field is bound, so the names of the bindings are those of the fields
    have hbindings : ((EnumSchema.ofDescriptor file).fields.filterMap
        (fieldBinding? (EnumSchema.ofDescriptor file).enums)).map (·.name) =
          (EnumSchema.ofDescriptor file).fields.map bindingName := by
      rw [← List.forall₂_eq_eq_eq, List.forall₂_map_left_iff, List.forall₂_map_right_iff]
      apply List.Forall₂.flip
      apply forall₂_filterMap_of_forall
      intro field hfield
      obtain ⟨enum, -, hbinding⟩ := exists_fieldBinding? hfield
      exact ⟨_, hbinding, rfl⟩
    have hbinding : Item.name? ∘ Item.binding = some ∘ FieldBinding.name := rfl
    rw [EnumSchema.items, List.filterMap_append, filterMap_formatItems fun _ => rfl,
      List.filterMap_map, hbinding, List.filterMap_eq_map, hbindings, Mode.itemKinds,
      List.flatMap_cons, List.flatMap_singleton]
    rfl
  | json =>
    rw [EnumSchema.items, filterMap_formatItems fun _ => rfl]
    exact (List.append_nil _).symm
  | graphQL =>
    have hconstant : Item.name? ∘ Item.constant = some ∘ TextConstant.name := rfl
    rw [EnumSchema.items, List.filterMap_map, hconstant, List.filterMap_eq_map, List.map_append,
      List.map_map]
    rfl

/-- **The names of the items for a file collide only if its types do.** Two flat names agree only if
their levels do. If the names of the file are ASCII, enums with different types have flat names,
adapters and constants with different names. Bindings have one name only if the names of their
fields, and of the messages around these, agree in `snake` case one by one. Items of different kinds
never have one name. -/
theorem ofDescriptor_itemNames (file : FileDescriptor) :
    (∀ (nesting nesting' : List Text) (name name' : Text),
      Identifier.flatSnake nesting name = Identifier.flatSnake nesting' name' ↔
        (nesting ++ [name]).map Text.snake = (nesting' ++ [name']).map Text.snake) ∧
    ((∀ name ∈ file.typeNames, ∀ c ∈ name, isAscii c = true) →
      ∀ enum ∈ (EnumSchema.ofDescriptor file).enums, ∀ enum' ∈ (EnumSchema.ofDescriptor file).enums,
        enum.typePath ≠ enum'.typePath →
          enum.snakeKey ≠ enum'.snakeKey ∧ enum.upperKey ≠ enum'.upperKey ∧
            (∀ format, adapterName format enum ≠ adapterName format enum') ∧
            (declarationConstant enum).name ≠ (declarationConstant enum').name) ∧
    (∀ field ∈ (EnumSchema.ofDescriptor file).fields,
      ∀ field' ∈ (EnumSchema.ofDescriptor file).fields, bindingName field = bindingName field' →
        (field.messagePath ++ [field.name]).map Text.snake =
          (field'.messagePath ++ [field'.name]).map Text.snake) ∧
    (∀ mode, ((EnumSchema.ofDescriptor file).items mode).filterMap Item.name? =
      mode.itemKinds.flatMap (EnumSchema.ofDescriptor file).itemNames) ∧
    ∀ kind kind', kind ≠ kind' → ∀ name ∈ (EnumSchema.ofDescriptor file).itemNames kind,
      name ∉ (EnumSchema.ofDescriptor file).itemNames kind' := by
  refine ⟨fun _ _ _ _ => Identifier.flatSnake_eq_iff, ?_, ?_, file.filterMap_name?_items, ?_⟩
  · intro hascii enum henum enum' henum' htype
    have hlevels (enum : DeclaredEnum) (henum : enum ∈ (EnumSchema.ofDescriptor file).enums) :
        enum.IsAscii := fun level hlevel => hascii level (mem_typeNames henum level hlevel)
    exact DeclaredEnum.itemNames_ne (hlevels enum henum) (hlevels enum' henum') htype
  · intro field _ field' _ heq
    exact Identifier.flatSnake_eq_iff.mp (List.append_cancel_right heq)
  · intro kind kind' hkind name hname hname'
    have hlast := EnumSchema.getLast?_of_mem_itemNames hname
    rw [EnumSchema.getLast?_of_mem_itemNames hname'] at hlast
    exact hkind (ItemKind.lastChar_injective (Option.some.inj hlast).symm)

/-- A file with an enum whose name is that of a nested one with the name of its message in front. -/
def codes : FileDescriptor where
  enums := [{ name? := "StatusCode".toList }]
  messages := [{ name? := "Status".toList, enums := [{ name? := "Code".toList }] }]

/-- The enum `StatusCode` and the enum `Code` in the message `Status` share no name. -/
theorem ofDescriptor_itemNames_codes :
    ∃ root nested, (EnumSchema.ofDescriptor codes).enums = [root, nested] ∧
      root.typePath = "StatusCode" ∧ nested.typePath = "status::Code" ∧
      root.snakeKey ≠ nested.snakeKey ∧ root.upperKey ≠ nested.upperKey ∧
      (∀ format, adapterName format root ≠ adapterName format nested) ∧
      (declarationConstant root).name ≠ (declarationConstant nested).name := by
  have hall : codes.typeNames.flatten.all isAscii = true := rfl
  have hascii : ∀ name ∈ codes.typeNames, ∀ c ∈ name, isAscii c = true :=
    fun name hname c hc => List.all_eq_true.mp hall c (List.mem_flatten.mpr ⟨name, hname, hc⟩)
  refine ⟨⟨"StatusCode", ".StatusCode", [], [], none⟩,
    ⟨"Code", ".Status.Code", ["Status".toList], [], none⟩, rfl, ?_, ?_, ?_⟩
  · decide
  · decide
  · exact (ofDescriptor_itemNames codes).2.1 hascii _ List.mem_cons_self _
      (List.mem_cons_of_mem _ List.mem_cons_self) (by decide)

end FileDescriptor

end EnumCodegen
