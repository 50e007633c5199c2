import EnumCodegen.GraphQL.Declaration
import EnumCodegen.Proofs.GraphQL.Token
import EnumCodegen.Proofs.Text.Lines
import EnumCodegen.Proofs.WireNames.Uniqueness

/-!
# The names in a declaration

Identifiers are names, and names joined by underscores are a name. The `UPPER_SNAKE` form of a name
stays within the characters of names, and what dropping a prefix leaves of it begins with a letter;
so wire names are names as well.

## Main results

* `isName_iff`: the characters of a name
* `isName_flatTypeName`, `isName_memberName`: the names in a declaration
-/

namespace EnumCodegen.GraphQL

open CharClass

variable {enum : DeclaredEnum}

theorem isNameContinue_of_isNameStart {c : Char} (h : isNameStart c = true) :
    isNameContinue c = true := by
  simp only [isNameStart, Bool.or_eq_true] at h
  simp only [isNameContinue, Char.isAlphanum, Bool.or_eq_true]
  exact h.imp_left .inl

/-- **Names** consist of letters, digits and underscores, and begin with no digit. -/
theorem isName_iff {name : Text} :
    isName name = true ↔ (∃ c, name.head? = some c ∧ isNameStart c = true) ∧
      ∀ c ∈ name, isNameContinue c = true := by
  cases name with
  | nil => simp [isName]
  | cons c rest =>
    rw [isName, Bool.and_eq_true, List.all_eq_true, List.forall_mem_cons]
    constructor
    · rintro ⟨hstart, hrest⟩
      exact ⟨⟨c, rfl, hstart⟩, isNameContinue_of_isNameStart hstart, hrest⟩
    · rintro ⟨⟨c', hc', hstart⟩, -, hrest⟩
      obtain rfl := Option.some.inj hc'
      exact ⟨hstart, hrest⟩

/-- **Names joined by underscores** are a name. -/
theorem isName_intercalate {parts : List Text} (hne : parts ≠ [])
    (hparts : ∀ part ∈ parts, isName part = true) : isName (['_'].intercalate parts) = true := by
  rw [isName_iff]
  constructor
  · obtain ⟨first, rest, rfl⟩ := List.exists_cons_of_ne_nil hne
    obtain ⟨⟨c, hc, hstart⟩, -⟩ := isName_iff.mp (hparts first List.mem_cons_self)
    obtain ⟨more, hmore⟩ := Text.prefix_intercalate_cons ['_'] first rest
    refine ⟨c, ?_, hstart⟩
    rw [← hmore, List.head?_append, hc]
    rfl
  · intro c hc
    rcases Text.mem_intercalate hc with hc | ⟨part, hpart, hc⟩
    · rw [List.mem_singleton.mp hc]
      decide
    · exact (isName_iff.mp (hparts part hpart)).2 c hc

theorem isAscii_of_isNameContinue {c : Char} (h : isNameContinue c = true) : isAscii c = true := by
  rcases Bool.or_eq_true_iff.mp h with halphanum | hunderscore
  · exact isAscii_of_isAlphanum halphanum
  · rw [of_decide_eq_true hunderscore]
    decide

/-- What dropping a prefix from a name leaves is a name. -/
theorem isName_of_shortName? {enumPrefix declared short : Text} (hname : isName declared = true)
    (h : WireNames.shortName? enumPrefix (Text.upperSnake declared) = some short) :
    isName short = true := by
  obtain ⟨hbegin, hstart⟩ := Option.filter_eq_some_iff.mp h
  have hwhole := List.isPrefixOf?_eq_some_iff_append_eq.mp hbegin
  rw [isName_iff]
  constructor
  · cases hc : short.head? with
    | none => simp [hc] at hstart
    | some c =>
      rw [hc, Option.any_some] at hstart
      exact ⟨c, rfl, by simp [isNameStart, hstart]⟩
  · intro c hc
    have hascii : ∀ d ∈ declared, isAscii d = true :=
      fun d hd => isAscii_of_isNameContinue ((isName_iff.mp hname).2 d hd)
    have hmem : c ∈ Text.upperSnake declared := hwhole ▸ List.mem_append_right _ hc
    simpa [isNameContinue] using Text.mem_upperSnake_ascii hascii hmem

/-- **Wire names are names**, since the names of values are. -/
theorem isName_memberName (hnames : ∀ value ∈ enum.values, isName value.name = true)
    {value : DeclaredValue} (hvalue : value ∈ enum.values) :
    enum.wireNames.wireName? value.name = some (memberName enum.wireNames value) ∧
      isName (memberName enum.wireNames value) = true := by
  have hdeclared : value.name ∈ enum.values.map (·.name) := List.mem_map_of_mem hvalue
  obtain ⟨names, hmem, hname⟩ := (WireNames.mem_declared_iff enum.name).mp hdeclared
  have hwire : enum.wireNames.wireName? value.name = some names.wire :=
    WireNames.wireName?_eq_some_iff.mpr ⟨names, hmem, hname, rfl⟩
  have hmember : memberName enum.wireNames value = names.wire := by
    rw [memberName, hwire, Option.getD_some]
  rw [hmember]
  refine ⟨hwire, ?_⟩
  obtain ⟨i, hi⟩ := List.mem_iff_getElem?.mp hmem
  obtain ⟨-, hnames'⟩ := WireNames.ofDeclared_values_at hi
  have hisName : isName names.declared = true := hname ▸ hnames value hvalue
  rw [hnames']
  rcases WireNames.Candidate.declared_or_short
    (.ofName (WireNames.prefixOf enum.name) names.declared) _ with hwire | hshort
  · exact (congrArg (isName · = true) hwire).mpr hisName
  · exact isName_of_shortName? hisName hshort

/-- **The flat name of an enum** is a name, if its own and those of the messages around it are. -/
theorem isName_flatTypeName (hnesting : ∀ name ∈ enum.nesting, isName name = true)
    (hname : isName enum.name = true) : isName enum.flatTypeName = true := by
  refine isName_intercalate (by simp) ?_
  intro part hpart
  rcases List.mem_append.mp hpart with hpart | hpart
  · exact hnesting part hpart
  · rwa [List.mem_singleton.mp hpart]

end EnumCodegen.GraphQL
