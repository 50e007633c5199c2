import EnumCodegen.Document.Adapter
import EnumCodegen.Proofs.Text.Lines
import EnumCodegen.Proofs.Text.WhiteSpace
import EnumCodegen.Proofs.Traversal
import EnumCodegen.Proofs.WireNames.Uniqueness

/-!
# Adapters are inverse to each other

Numbers that belong to an enum are written and come back, whatever the shape of the field that holds
them; one that does not is blamed, and nothing is written. What makes this work is that a wire name
means its value and is not changed by trimming.

## Main definitions

* `DeclaredEnum.numbers`, `DeclaredEnum.TellsApart`: the numbers of an enum, and enums whose values
  are told apart
* `Adapter.IsInverse`: writing what belongs to an enum, and reading it back
* `Adapter.accepts`: whether a name is accepted

## Main results

* `WireNames.trimmed_wire`: trimming leaves wire names alone
* `Adapter.readName_writeName`: a number comes back from its name
* `Adapter.adapters_inverse`: the adapters for all shapes, in both formats
-/

namespace EnumCodegen

/-! ## Wire names -/

namespace WireNames

variable {enumName : Text} {declared : List Text}

/-- What a text means is a declared name. -/
theorem mem_of_meaning?_eq_some {input name : Text}
    (h : (ofDeclared enumName declared).meaning? input = some name) : name ∈ declared := by
  unfold meaning? at h
  split at h
  · cases h
  · obtain ⟨value, hvalue, rfl⟩ := Option.map_eq_some_iff.mp h
    apply (mem_declared_iff enumName).mpr ⟨value, ?_, rfl⟩
    simp only [Option.orElse_eq_orElse, Option.orElse_eq_or, Option.or_eq_some_iff] at hvalue
    rcases hvalue with hfind | ⟨-, hfind | ⟨-, hfind⟩⟩ <;> exact List.mem_of_find?_eq_some hfind

/-- **Trimming leaves a wire name alone**, if it does so with the declared name. A short name is part
of a name in upper snake case. -/
theorem trimmed_wire {value : ValueNames} (hvalue : value ∈ (ofDeclared enumName declared).values)
    (h : Text.trimmed CharClass.isWhiteSpace value.declared = value.declared) :
    Text.trimmed CharClass.isWhiteSpace value.wire = value.wire := by
  obtain ⟨i, hi⟩ := List.mem_iff_getElem?.mp hvalue
  have hwire := congrArg ValueNames.wire (ofDeclared_values_at hi).2
  rcases Candidate.declared_or_short (Candidate.ofName (prefixOf enumName) value.declared)
    ((candidates enumName declared).eraseIdx i) with hdeclared | hshort
  · rw [hwire.trans hdeclared]
    exact h
  · have happend := (Option.filter_eq_some_iff.mp hshort).1
    rw [List.isPrefixOf?_eq_some_iff_append_eq] at happend
    apply Text.trimmed_of_forall
    intro c hc
    rw [hwire] at hc
    have hmem : c ∈ Text.upperSnake value.declared := by
      rw [← happend]
      exact List.mem_append_right _ hc
    exact Text.isWhiteSpace_of_mem_upperSnake hmem

end WireNames

/-! ## Enums -/

namespace DeclaredEnum

/-- **The numbers of an enum.** -/
def numbers (enum : DeclaredEnum) : List Int32 :=
  enum.values.map (·.number)

/-- **An enum whose values are told apart**, by number and by name. No name is empty or surrounded by
white space. -/
structure TellsApart (enum : DeclaredEnum) : Prop where
  numbers_nodup : enum.numbers.Nodup
  names_nodup : (enum.values.map (·.name)).Nodup
  name_ne_nil : ∀ value ∈ enum.values, value.name ≠ []
  trimmed_name : ∀ value ∈ enum.values,
    Text.trimmed CharClass.isWhiteSpace value.name = value.name

instance (enum : DeclaredEnum) : Decidable enum.TellsApart :=
  decidable_of_iff
    (enum.numbers.Nodup ∧ (enum.values.map (·.name)).Nodup ∧
      enum.values.all fun value =>
        value.name ≠ [] ∧ Text.trimmed CharClass.isWhiteSpace value.name = value.name)
    (by
      simp only [List.all_eq_true, decide_eq_true_eq]
      exact ⟨fun ⟨hnumbers, hnames, hvalues⟩ =>
          ⟨hnumbers, hnames, fun value h => (hvalues value h).1, fun value h => (hvalues value h).2⟩,
        fun ⟨hnumbers, hnames, hne, htrimmed⟩ =>
          ⟨hnumbers, hnames, fun value h => ⟨hne value h, htrimmed value h⟩⟩⟩)

variable {enum : DeclaredEnum}

/-- Every number of an enum has a wire name. -/
theorem nameOf?_eq_none_iff {n : Int32} : enum.nameOf? n = none ↔ n ∉ enum.numbers := by
  rw [nameOf?, Option.bind_eq_none_iff, numbers, List.mem_map]
  constructor
  · rintro h ⟨value, hvalue, rfl⟩
    obtain ⟨first, hfirst⟩ : ∃ first, enum.values.find? (·.number = value.number) = some first := by
      rw [← Option.isSome_iff_exists, List.find?_isSome]
      exact ⟨value, hvalue, decide_eq_true rfl⟩
    have hname : first.name ∈ enum.values.map (·.name) :=
      List.mem_map_of_mem (List.mem_of_find?_eq_some hfirst)
    obtain ⟨names, hnames, hdeclared⟩ := (WireNames.mem_declared_iff enum.name).mp hname
    have hwire : enum.wireNames.wireName? first.name = some names.wire :=
      WireNames.wireName?_eq_some_iff.mpr ⟨names, hnames, hdeclared, rfl⟩
    rw [h first hfirst] at hwire
    cases hwire
  · intro h value hvalue
    exact absurd ⟨value, List.mem_of_find?_eq_some hvalue, by simpa using List.find?_some hvalue⟩ h

/-- A text that means something means a number. -/
theorem numberOf?_eq_none_iff {input : Text} :
    enum.numberOf? input = none ↔ enum.wireNames.meaning? input = none := by
  rw [numberOf?, Option.bind_eq_none_iff]
  constructor
  · intro h
    by_contra hne
    obtain ⟨declared, hdeclared⟩ := Option.ne_none_iff_exists'.mp hne
    obtain ⟨value, hvalue, rfl⟩ := List.mem_map.mp (WireNames.mem_of_meaning?_eq_some hdeclared)
    have hnone := h value.name hdeclared
    rw [Option.map_eq_none_iff, List.find?_eq_none] at hnone
    exact hnone value hvalue (decide_eq_true rfl)
  · intro h declared hdeclared
    rw [h] at hdeclared
    cases hdeclared

/-- **The name of a value means its number**, and trimming leaves it alone. -/
theorem TellsApart.exists_nameOf? (henum : enum.TellsApart) {n : Int32} (hn : n ∈ enum.numbers) :
    ∃ wire, enum.nameOf? n = some wire ∧ enum.numberOf? wire = some n ∧
      Text.trimmed CharClass.isWhiteSpace wire = wire := by
  obtain ⟨value, hvalue, rfl⟩ := List.mem_map.mp hn
  obtain ⟨names, hnames, hdeclared⟩ := (WireNames.mem_declared_iff enum.name).mp
    (List.mem_map_of_mem (f := (·.name)) hvalue)
  have hne : names.wire ≠ [] := by
    obtain ⟨i, hi⟩ := List.mem_iff_getElem?.mp hnames
    rw [(WireNames.ofDeclared_values_at hi).2]
    exact WireNames.Candidate.wire_ne_nil _ (hdeclared ▸ henum.name_ne_nil value hvalue)
  have hwire : enum.wireNames.wireName? value.name = some names.wire :=
    WireNames.wireName?_eq_some_iff.mpr ⟨names, hnames, hdeclared, rfl⟩
  have hmeaning : enum.wireNames.meaning? names.wire = some value.name :=
    hdeclared ▸ WireNames.meaning?_wire hnames hne
  refine ⟨names.wire, ?_, ?_, ?_⟩
  · rw [nameOf?, find?_key_eq_some henum.numbers_nodup hvalue, Option.bind_some, hwire]
  · rw [numberOf?, hmeaning, Option.bind_some, find?_key_eq_some henum.names_nodup hvalue,
      Option.map_some]
  · exact WireNames.trimmed_wire hnames (hdeclared ▸ henum.trimmed_name value hvalue)

end DeclaredEnum

namespace Adapter

variable {enum : DeclaredEnum}

/-! ## Names -/

/-- **Whether a name is accepted**: whether it means something, as the format hands it on. -/
def accepts (format : TextFormat) (enum : DeclaredEnum) (text : Text) : Bool :=
  (enum.wireNames.meaning? (received format text)).isSome

/-- Writing fails on numbers outside the enum. -/
theorem writeName_eq_error_iff (n : Int32) (cause : DocumentError) :
    writeName enum n = .error cause ↔
      decide (n ∉ enum.numbers) = true ∧ cause = .unrecognized (.number enum.name n) := by
  rw [decide_eq_true_eq, ← DeclaredEnum.nameOf?_eq_none_iff, writeName]
  cases enum.nameOf? n with
  | none => simp [eq_comm]
  | some name => simp

/-- Reading fails on names that are not accepted. -/
theorem readName_eq_error_iff (format : TextFormat) (text : Text) (cause : DocumentError) :
    readName format enum text = .error cause ↔
      (!accepts format enum text) = true ∧
        cause = .unrecognized (.name enum.name (received format text)) := by
  rw [accepts, Bool.not_eq_true', Option.isSome_eq_false_iff, Option.isNone_iff_eq_none,
    ← DeclaredEnum.numberOf?_eq_none_iff, readName]
  cases enum.numberOf? (received format text) with
  | none => simp [eq_comm]
  | some n => simp

/-- **A number comes back from its name.** -/
theorem readName_writeName (henum : enum.TellsApart) (format : TextFormat) {n : Int32} {text : Text}
    (h : writeName enum n = .ok text) : readName format enum text = .ok n := by
  have hn : n ∈ enum.numbers := by
    by_contra hn
    rw [(writeName_eq_error_iff n _).mpr ⟨decide_eq_true hn, rfl⟩] at h
    cases h
  obtain ⟨wire, hname, hnumber, htrimmed⟩ := henum.exists_nameOf? hn
  rw [writeName, hname] at h
  obtain rfl := Except.ok.inj h
  have hreceived : received format wire = wire := by
    cases format with
    | xml => exact htrimmed
    | json => rfl
  rw [readName, hreceived, hnumber]

/-! ## Single numbers, optional numbers and lists -/

/-- **Writing and reading are inverse to each other**: what belongs to an enum is written and comes
back, and anything else fails on the first number outside the enum. -/
structure IsInverse {Value : Type} (enum : DeclaredEnum) (numbers : Value → List Int32)
    (write : Value → Except DocumentError Json) (read : Json → Except DocumentError Value) :
    Prop where
  writes : ∀ value, (∃ json, write value = .ok json) ↔ ∀ n ∈ numbers value, n ∈ enum.numbers
  blames : ∀ value cause, write value = .error cause ↔
    ∃ n, (numbers value).find? (· ∉ enum.numbers) = some n ∧
      cause = .unrecognized (.number enum.name n)
  readsBack : ∀ value json, write value = .ok json → read json = .ok value

variable {Value : Type} {numbers : Value → List Int32} {write : Value → Except DocumentError Json}
  {read : Json → Except DocumentError Value}

/-- Writing that fails on nothing but numbers outside the enum succeeds on all others. -/
theorem IsInverse.of_blames
    (hblames : ∀ value cause, write value = .error cause ↔
      ∃ n, (numbers value).find? (· ∉ enum.numbers) = some n ∧
        cause = .unrecognized (.number enum.name n))
    (hreads : ∀ value json, write value = .ok json → read json = .ok value) :
    IsInverse enum numbers write read where
  writes value := by
    have hnone : (∃ json, write value = .ok json) ↔
        (numbers value).find? (· ∉ enum.numbers) = none := by
      rw [← not_iff_not, ← ne_eq ((numbers value).find? _), Option.ne_none_iff_exists']
      constructor
      · intro h
        cases hwrite : write value with
        | error cause =>
          obtain ⟨n, hn, -⟩ := (hblames value cause).mp hwrite
          exact ⟨n, hn⟩
        | ok json => exact absurd ⟨json, hwrite⟩ h
      · rintro ⟨n, hn⟩ ⟨json, hjson⟩
        rw [(hblames value _).mpr ⟨n, hn, rfl⟩] at hjson
        cases hjson
    rw [hnone, List.find?_eq_none]
    simp only [decide_not, Bool.not_eq_true', decide_eq_false_iff_not, not_not]
  blames := hblames
  readsBack := hreads

theorem writeNumber_eq_error_iff (n : Int32) (cause : DocumentError) :
    writeNumber enum n = .error cause ↔
      decide (n ∉ enum.numbers) = true ∧ cause = .unrecognized (.number enum.name n) := by
  rw [← writeName_eq_error_iff, writeNumber]
  cases writeName enum n <;> simp [Except.map]

/-- A number comes back. -/
theorem readNumber_writeNumber (henum : enum.TellsApart) (format : TextFormat) {n : Int32}
    {json : Json} (h : writeNumber enum n = .ok json) : readNumber format enum json = .ok n := by
  rw [writeNumber] at h
  cases hname : writeName enum n with
  | error cause =>
    rw [hname] at h
    cases h
  | ok text =>
    rw [hname] at h
    obtain rfl := Except.ok.inj h
    exact readName_writeName henum format hname

/-- **A single number** comes back. -/
theorem isInverse_number (henum : enum.TellsApart) (format : TextFormat) :
    IsInverse enum (fun n => [n]) (writeNumber enum) (readNumber format enum) := by
  apply IsInverse.of_blames
  · intro n cause
    rw [writeNumber_eq_error_iff]
    by_cases hn : n ∈ enum.numbers <;> simp [hn]
  · intro n json h
    exact readNumber_writeNumber henum format h

/-- **An optional number** comes back. None is written as null. -/
theorem isInverse_optional (henum : enum.TellsApart) (format : TextFormat) :
    IsInverse enum Option.toList (writeOptional enum) (readOptional format enum) := by
  have hnumber := isInverse_number henum format
  apply IsInverse.of_blames
  · intro n? cause
    cases n? with
    | none => simp [writeOptional]
    | some n => exact hnumber.blames n cause
  · intro n? json h
    cases n? with
    | none =>
      obtain rfl := Except.ok.inj h
      rfl
    | some n =>
      have hread := hnumber.readsBack n json h
      cases json with
      | null => cases hread
      | _ =>
        rw [readOptional, hread]
        · rfl
        · exact Json.noConfusion

/-- **The strings in a list are read name by name.** -/
theorem readNumbers_strings (format : TextFormat) (texts : List Text) :
    readNumbers format enum (.list (texts.map .string)) = texts.mapM (readName format enum) := by
  have hstrings : (texts.map Json.string).mapM readString = .ok texts := by
    rw [mapM_eq_ok_iff, List.forall₂_map_left_iff]
    exact List.forall₂_same.mpr fun _ _ => rfl
  rw [readNumbers, hstrings]
  rfl

/-- A list of numbers is written as the list of their names. -/
theorem writeNumbers_eq (ns : List Int32) :
    writeNumbers enum ns =
      (ns.mapM (writeName enum)).map fun names => .list (names.map .string) := by
  have hitems : ns.mapM (writeNumber enum) = (ns.mapM (writeName enum)).map (List.map .string) :=
    mapM_map_result Json.string
  rw [writeNumbers, hitems]
  cases ns.mapM (writeName enum) <;> rfl

/-- **A list of numbers** comes back in its order. -/
theorem isInverse_numbers (henum : enum.TellsApart) (format : TextFormat) :
    IsInverse enum id (writeNumbers enum) (readNumbers format enum) := by
  apply IsInverse.of_blames
  · intro ns cause
    rw [id, ← mapM_eq_error_iff writeNumber_eq_error_iff, writeNumbers]
    cases ns.mapM (writeNumber enum) <;> simp [Except.map]
  · intro ns json h
    rw [writeNumbers_eq] at h
    cases hnames : ns.mapM (writeName enum) with
    | error cause =>
      rw [hnames] at h
      cases h
    | ok names =>
      rw [hnames] at h
      obtain rfl := Except.ok.inj h
      rw [readNumbers_strings, mapM_eq_ok_iff]
      exact (mapM_eq_ok_iff.mp hnames).flip.imp fun _ _ => readName_writeName henum format

/-- Reading succeeds on names that are accepted. -/
theorem exists_readName_eq_ok_iff (format : TextFormat) (text : Text) :
    (∃ n, readName format enum text = .ok n) ↔ accepts format enum text = true := by
  cases h : readName format enum text with
  | error cause =>
    have hrejects := ((readName_eq_error_iff format text cause).mp h).1
    rw [Bool.not_eq_true'] at hrejects
    simp [hrejects]
  | ok n =>
    by_contra hne
    have hrejects : ¬accepts format enum text = true := fun haccepts => hne (by simp [haccepts])
    rw [(readName_eq_error_iff format text _).mpr ⟨by simpa using hrejects, rfl⟩] at h
    cases h

/-- **Adapters are inverse to each other and fail as a whole.** In both formats this holds for single
numbers, for optional numbers, of which none is written as null, and for lists. A list of strings is
read if all of them are accepted, and otherwise the first that is not is blamed. -/
theorem adapters_inverse (henum : enum.TellsApart) (format : TextFormat) :
    IsInverse enum (fun n => [n]) (writeNumber enum) (readNumber format enum) ∧
    (IsInverse enum Option.toList (writeOptional enum) (readOptional format enum) ∧
      writeOptional enum none = .ok .null) ∧
    IsInverse enum id (writeNumbers enum) (readNumbers format enum) ∧
    ∀ texts : List Text,
      ((∃ ns, readNumbers format enum (.list (texts.map .string)) = .ok ns) ↔
        ∀ text ∈ texts, accepts format enum text = true) ∧
      ∀ cause, readNumbers format enum (.list (texts.map .string)) = .error cause ↔
        ∃ text, texts.find? (!accepts format enum ·) = some text ∧
          cause = .unrecognized (.name enum.name (received format text)) := by
  refine ⟨isInverse_number henum format, ⟨isInverse_optional henum format, rfl⟩,
    isInverse_numbers henum format, fun texts => ?_⟩
  rw [readNumbers_strings]
  constructor
  · rw [exists_mapM_eq_ok_iff]
    simp only [exists_readName_eq_ok_iff]
  · intro cause
    exact mapM_eq_error_iff (readName_eq_error_iff format)

/-- In XML the names of two shapes come back from among white space, and a third name is refused. -/
theorem adapters_inverse_shapes :
    let shape : DeclaredEnum :=
      { name := "Shape", fullName := ".Shape", nesting := [], comment? := none
        values := [⟨"SHAPE_ROUND", 1, none⟩, ⟨"flat", -2, none⟩] }
    shape.TellsApart ∧
    readNumbers .xml shape (.list [.string "flat", .string "ROUND"]) = .ok [-2, 1] ∧
    ¬∃ ns, readNumbers .xml shape (.list ([" flat\n", "SQUARE"].map .string)) = .ok ns := by
  intro shape
  have hshape : shape.TellsApart := by decide
  obtain ⟨-, -, hnumbers, hstrings⟩ := adapters_inverse hshape .xml
  refine ⟨hshape, hnumbers.readsBack [-2, 1] _ rfl, ?_⟩
  rw [(hstrings _).1]
  decide

end Adapter
end EnumCodegen
