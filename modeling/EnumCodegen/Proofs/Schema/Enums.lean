import EnumCodegen.Proofs.Schema.Order
import EnumCodegen.Proofs.Text.Joined

/-!
# The enums of a file are all listed, in order

A schema has one entry for every enum in the tree of its file. The entries come in the order of the
walk, and each says what its enum declares and where it is nested. Wire names follow from the
declared names alone, so an enum has the same ones wherever it is nested.

## Main definitions

* `DeclaredEnum.Declares`: the entry of an enum

## Main results

* `fullName_eq`: full names are joined by dots
* `FileDescriptor.ofDescriptor_enums`: the enums of a schema
-/

namespace EnumCodegen

/-- **The entry of an enum** that is nested in messages with the given names, outermost first. -/
structure DeclaredEnum.Declares (package : Text) (nesting : List Text) (enum : EnumDescriptor)
    (declared : DeclaredEnum) : Prop where
  name_eq : declared.name = enum.name
  nesting_eq : declared.nesting = nesting
  fullName_eq : declared.fullName = '.' :: ['.'].intercalate
    ((if package = [] then [] else [package]) ++ nesting ++ [enum.name])
  values_eq : declared.values.map (fun value => (value.name, value.number)) =
    enum.values.map (fun value => (value.name, value.number))
  wireNames_eq : declared.wireNames = WireNames.ofDeclared enum.name (enum.values.map (·.name))

/-- Parts behind dots are parts joined by dots, behind one more. -/
theorem flatMap_dot {parts : List Text} (h : parts ≠ []) :
    parts.flatMap ('.' :: ·) = '.' :: ['.'].intercalate parts := by
  obtain ⟨first, rest, rfl⟩ := List.exists_cons_of_ne_nil h
  rw [Text.intercalate_cons, List.flatMap_cons]
  rfl

/-- **The full name** of an enum joins package, messages and name by dots, behind one more. -/
theorem fullName_eq (package : Text) (nesting : List Text) (name : Text) :
    fullName package nesting name = '.' :: ['.'].intercalate
      ((if package = [] then [] else [package]) ++ nesting ++ [name]) := by
  rw [fullName, flatMap_dot (by simp)]
  simp only [List.isEmpty_iff]

/-- The walk makes the entry of each enum that it reaches. -/
theorem EnumNode.declares_declaration (file : FileDescriptor) (node : EnumNode) :
    (node.declaration file).Declares file.package node.nesting node.enum := by
  refine ⟨rfl, rfl, fullName_eq _ _ _, ?_, ?_⟩
  · apply map_mapIdx_of_forall
    intro i value
    rfl
  · apply congrArg (WireNames.ofDeclared node.enum.name)
    apply map_mapIdx_of_forall
    intro i value
    rfl

/-- **Every enum of a file is listed once, in the order of the walk**: the enums of the file itself,
then those of its messages, depth-first and those of a message before those of the messages in it.
Each entry has the names of the messages around its enum, the full name, the declared values, and the
wire names that follow from the declared names alone. -/
theorem FileDescriptor.ofDescriptor_enums (file : FileDescriptor) :
    ∃ places : List Place, places.Pairwise Place.Precedes ∧
      (∀ place, place ∈ places ↔ ∃ nesting enum, file.enumAt? place = some (nesting, enum)) ∧
      List.Forall₂
        (fun place declared => ∃ nesting enum, file.enumAt? place = some (nesting, enum) ∧
          declared.Declares file.package nesting enum)
        places (EnumSchema.ofDescriptor file).enums := by
  obtain ⟨places, horder, hmem, hstands⟩ := file.exists_places_enumNodes
  refine ⟨places, horder, hmem, ?_⟩
  change List.Forall₂ _ places (file.enumNodes.map (·.declaration file))
  rw [List.forall₂_map_right_iff]
  apply hstands.imp
  rintro place node ⟨hat, -⟩
  exact ⟨node.nesting, node.enum, hat, node.declares_declaration file⟩

end EnumCodegen
