import EnumCodegen.Code.Render
import EnumCodegen.Proofs.Code.Identifier
import EnumCodegen.Proofs.Code.TraitImpl
import EnumCodegen.Proofs.WireNames.Accepted

/-!
# Generated code answers as the wire names do

In every mode the code for an enum gives its values their wire names, and in the text formats it
finds values by the meaning of a text. What the code does is read off its text: the arms of the two
matches, by the rules of the language for string literals and for matches.

Arms whose two names are equal are left out of the code, and a name may be declared repeatedly, so
the first arm for a name is not the arm of the first value. It gives the same wire name all the
same, since values of one declared name have one wire name.

## Main definitions

* `formatText`: the code for an enum in a text format

## Main results

* `formatText_infix_render?`: this code is part of the code for every file with the enum
* `read?_formatText`: the trait implementation reads back from the code
* `formatText_answers`: generated code answers as the wire names do, in every mode
-/

namespace EnumCodegen

open Code

/-- **The code for an enum** in a text format: its items, each behind an empty line. -/
def formatText (format : TextFormat) (enum : DeclaredEnum) : Text :=
  text ((formatItems format enum).flatMap fun item => [] :: item.lines)

/-- The mode of a text format. -/
def TextFormat.mode : TextFormat → Mode
  | xml => .xml
  | json => .json

section

variable {format : TextFormat} {enum : DeclaredEnum}

/-! ## The place of the code -/

theorem items_mode (file : EnumSchema) (format : TextFormat) :
    ∃ bindings, file.items format.mode = file.enums.flatMap (formatItems format) ++ bindings := by
  cases format with
  | xml => exact ⟨_, rfl⟩
  | json => exact ⟨[], (List.append_nil _).symm⟩

/-- **The code for an enum is part of the code for its file.** -/
theorem formatText_infix_render? {file : EnumSchema} (henum : enum ∈ file.enums) :
    ∃ code, file.render? format.mode = some code ∧ formatText format enum <:+: code := by
  have hfile : file.hasEnums = true := by
    cases henums : file.enums with
    | nil => simp [henums] at henum
    | cons first rest => simp [EnumSchema.hasEnums, henums]
  obtain ⟨bindings, hitems⟩ := items_mode file format
  obtain ⟨before, after, henums⟩ := List.append_of_mem henum
  refine ⟨text (file.codeLines format.mode), if_pos hfile, ?_⟩
  rw [EnumSchema.codeLines, hitems, henums]
  simp only [List.flatMap_append, List.flatMap_cons, text_append, List.append_assoc]
  rw [← formatText, ← List.append_assoc]
  exact ⟨_, _, List.append_assoc _ _ _⟩

/-! ## The implementation in the code -/

/-- No name character ends a path. -/
theorem endsPath_of_isNameChar {c : Char} (hc : CharClass.isNameChar c = true) :
    TraitImpl.endsPath c = false := by
  by_contra hends
  simp only [TraitImpl.endsPath, Text.isBlank, Bool.decide_or, Bool.not_eq_false, Bool.or_eq_true,
    decide_eq_true_eq] at hends
  rcases hends with (rfl | rfl | rfl | rfl) | rfl <;> exact absurd hc (by decide)

theorem endsPath_typePath (enum : DeclaredEnum) :
    ∀ c ∈ enum.typePath, TraitImpl.endsPath c = false := by
  intro c hc
  rcases Identifier.mem_typePath hc with hc | rfl | rfl | rfl
  · exact endsPath_of_isNameChar hc
  · rfl
  · rfl
  · rfl

/-- **The trait implementation reads back** from the code for an enum. The adapters follow it. -/
theorem read?_formatText (format : TextFormat) (enum : DeclaredEnum) :
    TraitImpl.read? format (formatText format enum) =
      some (traitImpl format enum, '\n' :: '\n' :: text (adapterModule format enum).lines) := by
  have hread := (traitImpl format enum).read?_lines (endsPath_typePath enum)
    ('\n' :: text (adapterModule format enum).lines)
  have hcode : formatText format enum = '\n' :: (text (traitImpl format enum).lines ++
      '\n' :: text (adapterModule format enum).lines) := by
    simp [formatText, formatItems, Item.lines]
  rw [hcode, TraitImpl.read?_newline]
  exact hread

/-- The arms that give wire names are searched as the values are, without those whose two names are
equal. -/
theorem find?_toWire (name : Text) :
    ((traitImpl format enum).toWire.find? (·.input = name)).map (·.output) =
      (enum.wireNames.values.find? fun value =>
        value.declared ≠ value.wire ∧ value.declared = name).map (·.wire) := by
  simp only [traitImpl, WireNames.pairs, List.find?_map, List.find?_filter, Option.map_map,
    Function.comp_def, decide_eq_true_eq]

/-- **The wire name of a declared name** is what the implementation gives for it. -/
theorem wireNameOf_traitImpl {name : Text} (hname : name ∈ enum.values.map (·.name)) :
    enum.wireNames.wireName? name = some ((traitImpl format enum).wireNameOf name) := by
  obtain ⟨value, hvalue, rfl⟩ := (WireNames.mem_declared_iff enum.name).mp hname
  -- Every value of this declared name has this wire name, so any arm for the name will do.
  have hsame : ∀ other ∈ enum.wireNames.values, other.declared = value.declared →
      other.wire = value.wire := fun _ hother =>
    WireNames.wire_eq_of_declared_eq hother hvalue
  rw [TraitImpl.wireNameOf, find?_toWire]
  refine WireNames.wireName?_eq_some_iff.mpr ⟨value, hvalue, rfl, ?_⟩
  cases hfind : enum.wireNames.values.find? fun other =>
      other.declared ≠ other.wire ∧ other.declared = value.declared with
  | none =>
    -- There is no arm for the name, not even that of the value: its two names are equal.
    have hequal := List.find?_eq_none.mp hfind value hvalue
    simp only [ne_eq, and_true, decide_eq_true_eq, Decidable.not_not] at hequal
    exact hequal.symm
  | some other =>
    have hother := List.find?_some hfind
    simp only [decide_eq_true_eq] at hother
    exact (hsame other (List.mem_of_find?_eq_some hfind) hother.2).symm

/-- **The meaning of a text** is what the implementation finds for it. -/
theorem declaredNameOf?_traitImpl {input : Text} (hinput : input ≠ []) :
    (traitImpl format enum).declaredNameOf? input = enum.wireNames.meaning? input := by
  have hlookup := WireNames.lookup_map (·.1) (·.2) enum.wireNames.accepted input
  rw [List.map_id'] at hlookup
  rw [← WireNames.lookup_accepted _ hinput, hlookup]
  simp only [TraitImpl.declaredNameOf?, traitImpl, List.find?_map, Option.map_map,
    Function.comp_def]

/-! ## All modes -/

/-- The members of the declaration in GraphQL have the names that the implementation gives. -/
theorem declarationText_eq (format : TextFormat) (enum : DeclaredEnum) :
    GraphQL.declarationText enum = ['\n'].intercalate
      (GraphQL.commentLines [] enum.comment? ++
        ["enum " ++ enum.flatTypeName ++ " \x7b"] ++
        (enum.values.flatMap fun value => GraphQL.commentLines "  " value.comment? ++
          ["  " ++ (traitImpl format enum).wireNameOf value.name]) ++
        ["\x7d".toList]) := by
  have hmember : ∀ value ∈ enum.values, GraphQL.memberName enum.wireNames value =
      (traitImpl format enum).wireNameOf value.name := by
    intro value hvalue
    rw [GraphQL.memberName, wireNameOf_traitImpl (List.mem_map_of_mem hvalue)]
    rfl
  rw [GraphQL.declarationText, GraphQL.declarationLines]
  congr 3
  refine List.flatMap_congr fun value hvalue => ?_
  rw [hmember value hvalue]

/-- **Generated code answers as the wire names do, in every mode.** The code for an enum in a text
format is part of the code for every file with the enum. The trait implementation in it gives every
value its wire name and finds for every text that is not empty what it means; the declaration in
GraphQL lists the values under the same names. -/
theorem formatText_answers (format : TextFormat) (enum : DeclaredEnum) :
    (∀ file : EnumSchema, enum ∈ file.enums →
      ∃ code, file.render? format.mode = some code ∧ formatText format enum <:+: code) ∧
    ∃ impl rest, TraitImpl.read? format (formatText format enum) = some (impl, rest) ∧
      (∀ name ∈ enum.values.map (·.name),
        enum.wireNames.wireName? name = some (impl.wireNameOf name)) ∧
      (∀ input : Text, input ≠ [] →
        impl.declaredNameOf? input = enum.wireNames.meaning? input) ∧
      GraphQL.declarationText enum = ['\n'].intercalate
        (GraphQL.commentLines [] enum.comment? ++
          ["enum " ++ enum.flatTypeName ++ " \x7b"] ++
          (enum.values.flatMap fun value =>
            GraphQL.commentLines "  " value.comment? ++ ["  " ++ impl.wireNameOf value.name]) ++
          ["\x7d".toList]) := by
  constructor
  · intro file henum
    exact formatText_infix_render? henum
  · refine ⟨traitImpl format enum, _, read?_formatText format enum, ?_, ?_, ?_⟩
    · intro name hname
      exact wireNameOf_traitImpl hname
    · intro input hinput
      exact declaredNameOf?_traitImpl hinput
    · exact declarationText_eq format enum

/-- An enum whose value names need escapes, repeat each other and share a prefix in part. -/
def quotedNames : DeclaredEnum where
  name := "Odd"
  fullName := ".Odd"
  nesting := []
  values :=
    [⟨"ODD_\"A\"\n", 0, none⟩, ⟨"ODD_B", 1, none⟩, ⟨"ODD_B", 1, none⟩, ⟨"\\\u0007\r", 2, none⟩]
  comment? := none

theorem formatText_answers_quotedNames :
    (∃ code, EnumSchema.render? ⟨"odd.proto", [], none, [quotedNames], []⟩ .json = some code ∧
      formatText .json quotedNames <:+: code) ∧
    ∃ impl rest, TraitImpl.read? .json (formatText .json quotedNames) = some (impl, rest) ∧
      "ODD_\"A\"\n".toList ∈ quotedNames.values.map (·.name) ∧
      impl.wireNameOf "ODD_\"A\"\n" = "A".toList ∧
      impl.declaredNameOf? "B" = some "ODD_B".toList ∧
      impl.declaredNameOf? "\\\u0007\r" = some "\\\u0007\r".toList := by
  obtain ⟨hfile, impl, rest, hread, hwire, hmeaning, -⟩ := formatText_answers .json quotedNames
  have hmem : "ODD_\"A\"\n".toList ∈ quotedNames.values.map (·.name) := by decide
  have hname : some (impl.wireNameOf "ODD_\"A\"\n") = some "A".toList :=
    (hwire _ hmem).symm.trans (by decide)
  exact ⟨hfile _ (by simp), impl, rest, hread, hmem, Option.some.inj hname,
    (hmeaning "B" (by decide)).trans (by decide),
    (hmeaning "\\\u0007\r" (by decide)).trans (by decide)⟩

end

end EnumCodegen
