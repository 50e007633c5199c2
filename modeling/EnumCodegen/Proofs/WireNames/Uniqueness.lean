import EnumCodegen.WireNames
import Mathlib.Data.List.Basic

/-!
# Wire names tell values apart

A short name is given up as soon as another value goes by it. Hence a value whose wire name another
value goes by travels under its declared name, and from this one fact follows the rest: values with
one wire name have one declared name, and every value can be found by its wire name.

A declared name is looked up last. No wire name ever takes it away from its value, but the prefix
may: a value with a short wire name loses its declared name to a value whose `UPPER_SNAKE` form is
that name behind the prefix.

## Main results

* `wire_eq_declared_of_goesBy`: a wire name that another value goes by is a declared name
* `wireName?_eq_some_iff`: the wire names of a declared name
* `ofDeclared_lossless`: wire names lead back to their values
* `meaning?_declared_iff`: which declared names mean themselves
-/

namespace EnumCodegen.WireNames

variable {enumName : Text} {declared : List Text} {value value' : ValueNames}

/-! ## The names of the values -/

/-- The candidates for the values of an enum. -/
def candidates (enumName : Text) (declared : List Text) : List Candidate :=
  declared.map (Candidate.ofName (prefixOf enumName))

@[simp] theorem ofDeclared_enumPrefix (enumName : Text) (declared : List Text) :
    (ofDeclared enumName declared).enumPrefix = prefixOf enumName := rfl

theorem ofDeclared_values (enumName : Text) (declared : List Text) :
    (ofDeclared enumName declared).values = (candidates enumName declared).mapIdx
      fun i candidate => candidate.names ((candidates enumName declared).eraseIdx i) := rfl

theorem ofDeclared_values_getElem? (enumName : Text) (declared : List Text) (i : Nat) :
    (ofDeclared enumName declared).values[i]? = declared[i]?.map fun name =>
      (Candidate.ofName (prefixOf enumName) name).names
        ((candidates enumName declared).eraseIdx i) := by
  rw [ofDeclared_values, List.getElem?_mapIdx, candidates, List.getElem?_map, Option.map_map]
  rfl

/-- The names of the value in a place. -/
theorem ofDeclared_values_at {i : Nat}
    (hi : (ofDeclared enumName declared).values[i]? = some value) :
    declared[i]? = some value.declared ∧
      value = (Candidate.ofName (prefixOf enumName) value.declared).names
        ((candidates enumName declared).eraseIdx i) := by
  rw [ofDeclared_values_getElem?] at hi
  obtain ⟨name, hname, rfl⟩ := Option.map_eq_some_iff.mp hi
  exact ⟨hname, rfl⟩

/-- The declared names stand in order of declaration. -/
@[simp] theorem ofDeclared_values_declared (enumName : Text) (declared : List Text) :
    (ofDeclared enumName declared).values.map (·.declared) = declared := by
  apply List.ext_getElem?
  intro i
  rw [List.getElem?_map, ofDeclared_values_getElem?, Option.map_map]
  exact Option.map_id_apply

theorem mem_declared_iff (enumName : Text) {name : Text} :
    name ∈ declared ↔ ∃ value ∈ (ofDeclared enumName declared).values, value.declared = name := by
  rw [← List.mem_map, ofDeclared_values_declared]

theorem normalized_eq (hvalue : value ∈ (ofDeclared enumName declared).values) :
    value.normalized = Text.upperSnake value.declared := by
  obtain ⟨i, hi⟩ := List.mem_iff_getElem?.mp hvalue
  exact congrArg ValueNames.normalized (ofDeclared_values_at hi).2

/-- A search that some value answers has a first answer. -/
theorem exists_find?_eq_some {values : List ValueNames} {p : ValueNames → Bool}
    (hvalue : value ∈ values) (h : p value = true) :
    ∃ first ∈ values, p first = true ∧ values.find? p = some first := by
  have hsome : (values.find? p).isSome := by
    rw [List.find?_isSome]
    exact ⟨value, hvalue, h⟩
  obtain ⟨first, hfirst⟩ := Option.isSome_iff_exists.mp hsome
  exact ⟨first, List.mem_of_find?_eq_some hfirst, List.find?_some hfirst, hfirst⟩

/-! ## Wire names -/

/-- A value goes by its wire name. -/
theorem Candidate.goesBy_wire (candidate : Candidate) (others : List Candidate) :
    candidate.goesBy (candidate.wire others) = true := by
  unfold Candidate.wire
  split
  · split <;> simp_all [Candidate.goesBy]
  · simp [Candidate.goesBy]

/-- A wire name is the declared name or the short one. -/
theorem Candidate.declared_or_short (candidate : Candidate) (others : List Candidate) :
    candidate.wire others = candidate.declared ∨
      candidate.short? = some (candidate.wire others) := by
  unfold Candidate.wire
  split
  · next short hshort =>
    split
    · exact .inl rfl
    · exact .inr hshort
  · exact .inl rfl

/-- A wire name that one of the others goes by is the declared name. -/
theorem Candidate.wire_eq_declared {candidate other : Candidate} {others : List Candidate}
    (hother : other ∈ others) (h : other.goesBy (candidate.wire others) = true) :
    candidate.wire others = candidate.declared := by
  unfold Candidate.wire at h ⊢
  split
  · next name hname =>
    rw [hname] at h
    split
    · rfl
    · -- the short name would be free, yet the other value goes by it
      next hfree =>
      simp only [hfree] at h
      exact absurd (List.any_eq_true.mpr ⟨other, hother, h⟩) hfree
  · rfl

theorem Candidate.wire_ne_nil {enumPrefix name : Text} (others : List Candidate)
    (hname : name ≠ []) : (Candidate.ofName enumPrefix name).wire others ≠ [] := by
  unfold Candidate.wire
  split
  · next short hshort =>
    split
    · exact hname
    · -- a short name starts with a letter
      rintro rfl
      simp [Candidate.ofName, shortName?] at hshort
  · exact hname

/-- A name to which its own short name leads back needs no other wire name. -/
theorem Candidate.wire_of_upperSnake {enumPrefix name : Text} (others : List Candidate)
    (h : Text.upperSnake name = enumPrefix ++ name) :
    (Candidate.ofName enumPrefix name).wire others = name := by
  have hrest : enumPrefix.isPrefixOf? (Text.upperSnake name) = some name :=
    List.isPrefixOf?_eq_some_iff_append_eq.mpr h.symm
  unfold Candidate.wire
  split
  · next short hshort =>
    have hname : name = short := by
      simp only [Candidate.ofName, shortName?, hrest, Option.filter_eq_some_iff] at hshort
      exact Option.some.inj hshort.1
    split
    · rfl
    · exact hname.symm
  · rfl

theorem goesBy_wire (hvalue : value ∈ (ofDeclared enumName declared).values) :
    (Candidate.ofName (prefixOf enumName) value.declared).goesBy value.wire = true := by
  obtain ⟨i, hi⟩ := List.mem_iff_getElem?.mp hvalue
  rw [(ofDeclared_values_at hi).2]
  exact Candidate.goesBy_wire _ _

/-- **A wire name that another value goes by is a declared name**: the invariant that keeps wire
names apart. -/
theorem wire_eq_declared_of_goesBy {i j : Nat} {name : Text} (hij : j ≠ i)
    (hi : (ofDeclared enumName declared).values[i]? = some value) (hj : declared[j]? = some name)
    (h : (Candidate.ofName (prefixOf enumName) name).goesBy value.wire = true) :
    value.wire = value.declared := by
  have hvalue := (ofDeclared_values_at hi).2
  have hother : Candidate.ofName (prefixOf enumName) name ∈
      (candidates enumName declared).eraseIdx i :=
    List.mem_eraseIdx_iff_getElem?.mpr ⟨j, hij, by rw [candidates, List.getElem?_map, hj]; rfl⟩
  rw [hvalue] at h ⊢
  exact Candidate.wire_eq_declared hother h

/-- A declared name that goes by the wire name of a value is that of the value, or the value
travels under its declared name. -/
theorem wire_eq_declared_or (hvalue : value ∈ (ofDeclared enumName declared).values) {name : Text}
    (hname : name ∈ declared)
    (h : (Candidate.ofName (prefixOf enumName) name).goesBy value.wire = true) :
    value.wire = value.declared ∨ value.declared = name := by
  obtain ⟨i, hi⟩ := List.mem_iff_getElem?.mp hvalue
  obtain ⟨j, hj⟩ := List.mem_iff_getElem?.mp hname
  rcases eq_or_ne j i with rfl | hij
  · right
    exact Option.some.inj ((ofDeclared_values_at hi).1.symm.trans hj)
  · left
    exact wire_eq_declared_of_goesBy hij hi hj h

/-- **Values with one wire name have one declared name.** -/
theorem declared_eq_of_wire_eq (hvalue : value ∈ (ofDeclared enumName declared).values)
    (hvalue' : value' ∈ (ofDeclared enumName declared).values) (h : value.wire = value'.wire) :
    value.declared = value'.declared := by
  have hname := (mem_declared_iff enumName).mpr ⟨value, hvalue, rfl⟩
  have hname' := (mem_declared_iff enumName).mpr ⟨value', hvalue', rfl⟩
  -- Either value goes by the wire name of the other, so unless they have one declared name already,
  -- both travel under their declared names.
  rcases wire_eq_declared_or hvalue hname' (h ▸ goesBy_wire hvalue') with h₁ | h₁
  · rcases wire_eq_declared_or hvalue' hname (h ▸ goesBy_wire hvalue) with h₂ | h₂
    · rw [← h₁, h, h₂]
    · exact h₂.symm
  · exact h₁

/-- No wire name takes a declared name away from its value. -/
theorem declared_eq_of_wire_mem (hvalue : value ∈ (ofDeclared enumName declared).values)
    (h : value.wire ∈ declared) : value.declared = value.wire := by
  have hgoes : (Candidate.ofName (prefixOf enumName) value.wire).goesBy value.wire = true := by
    simp [Candidate.goesBy, Candidate.ofName]
  rcases wire_eq_declared_or hvalue h hgoes with h' | h'
  · exact h'.symm
  · exact h'

/-- Values with one declared name have one wire name: the declared name, if they are several. -/
theorem wire_eq_of_declared_eq (hvalue : value ∈ (ofDeclared enumName declared).values)
    (hvalue' : value' ∈ (ofDeclared enumName declared).values)
    (h : value.declared = value'.declared) : value.wire = value'.wire := by
  obtain ⟨i, hi⟩ := List.mem_iff_getElem?.mp hvalue
  obtain ⟨j, hj⟩ := List.mem_iff_getElem?.mp hvalue'
  rcases eq_or_ne j i with rfl | hij
  · exact congrArg ValueNames.wire (Option.some.inj (hi.symm.trans hj))
  · have hv := ofDeclared_values_at hi
    have hv' := ofDeclared_values_at hj
    -- Two places for one declared name: each value goes by the wire name of the other.
    have hwire : value.wire = value.declared :=
      wire_eq_declared_of_goesBy hij hi (h ▸ hv'.1) (goesBy_wire hvalue)
    have hwire' : value'.wire = value'.declared :=
      wire_eq_declared_of_goesBy hij.symm hj (h ▸ hv.1) (goesBy_wire hvalue')
    rw [hwire, hwire', h]

/-- **The wire names of a declared name** are those of its values. -/
theorem wireName?_eq_some_iff {name wire : Text} :
    (ofDeclared enumName declared).wireName? name = some wire ↔
      ∃ value ∈ (ofDeclared enumName declared).values,
        value.declared = name ∧ value.wire = wire := by
  unfold wireName?
  rw [Option.map_eq_some_iff]
  constructor
  · rintro ⟨value, hfind, rfl⟩
    exact ⟨value, List.mem_of_find?_eq_some hfind, by simpa using List.find?_some hfind, rfl⟩
  · rintro ⟨value, hvalue, rfl, rfl⟩
    obtain ⟨first, hfirst, hdeclared, hfind⟩ :=
      exists_find?_eq_some (p := (·.declared = value.declared)) hvalue (by simp)
    refine ⟨first, hfind, ?_⟩
    exact wire_eq_of_declared_eq hfirst hvalue (by simpa using hdeclared)

/-! ## The meaning of incoming text -/

/-- The meaning of a text as a wire name, else behind the prefix, else as a declared name. -/
theorem meaning?_eq (names : WireNames) {input : Text} (hinput : input ≠ []) :
    names.meaning? input =
      ((names.values.find? (·.wire = input)).map (·.declared)).or
        (((names.values.find? (·.normalized = names.enumPrefix ++ input)).map (·.declared)).or
          ((names.values.find? (·.declared = input)).map (·.declared))) := by
  unfold meaning?
  rw [if_neg (by simpa using hinput)]
  simp only [Option.orElse_eq_orElse, Option.orElse_eq_or, Option.map_or]

/-- **A wire name means its value.** -/
theorem meaning?_wire (hvalue : value ∈ (ofDeclared enumName declared).values)
    (hwire : value.wire ≠ []) :
    (ofDeclared enumName declared).meaning? value.wire = some value.declared := by
  obtain ⟨first, hfirst, hwire', hfind⟩ :=
    exists_find?_eq_some (p := (·.wire = value.wire)) hvalue (by simp)
  -- The first value with the wire name may be another, but it has the same declared name.
  have hdeclared : first.declared = value.declared :=
    declared_eq_of_wire_eq hfirst hvalue (by simpa using hwire')
  rw [meaning?_eq _ hwire, hfind, Option.map_some, Option.some_or, hdeclared]

/-- **Wire names are lossless**: a declared name has a wire name that means it, and values with one
wire name have one declared name. -/
theorem ofDeclared_lossless (enumName : Text) (declared : List Text) :
    (∀ name ∈ declared, name ≠ [] → ∃ wire,
      (ofDeclared enumName declared).wireName? name = some wire ∧
        (ofDeclared enumName declared).meaning? wire = some name) ∧
    ∀ value ∈ (ofDeclared enumName declared).values,
      ∀ value' ∈ (ofDeclared enumName declared).values,
        value.wire = value'.wire → value.declared = value'.declared := by
  constructor
  · intro name hname hne
    obtain ⟨value, hvalue, rfl⟩ := (mem_declared_iff enumName).mp hname
    have hwire : value.wire ≠ [] := by
      obtain ⟨i, hi⟩ := List.mem_iff_getElem?.mp hvalue
      rw [(ofDeclared_values_at hi).2]
      exact Candidate.wire_ne_nil _ hne
    refine ⟨value.wire, ?_, meaning?_wire hvalue hwire⟩
    exact wireName?_eq_some_iff.mpr ⟨value, hvalue, rfl, rfl⟩
  · intro value hvalue value' hvalue' h
    exact declared_eq_of_wire_eq hvalue hvalue' h

/-- Three values go by `OK`, and all of them keep their declared names. -/
theorem ofDeclared_lossless_shared :
    (∃ wire, (ofDeclared "Status" ["STATUS_OK", "OK", "StatusOk"]).wireName? "StatusOk" = some wire ∧
      (ofDeclared "Status" ["STATUS_OK", "OK", "StatusOk"]).meaning? wire =
        some "StatusOk".toList) ∧
    ∀ value ∈ (ofDeclared "Status" ["STATUS_OK", "OK", "StatusOk"]).values,
      ∀ value' ∈ (ofDeclared "Status" ["STATUS_OK", "OK", "StatusOk"]).values,
        value.wire = value'.wire → value.declared = value'.declared :=
  ⟨(ofDeclared_lossless "Status" ["STATUS_OK", "OK", "StatusOk"]).1 "StatusOk" (by decide)
    (by decide), (ofDeclared_lossless "Status" ["STATUS_OK", "OK", "StatusOk"]).2⟩

/-! ## Declared names as input -/

/-- The first value whose `UPPER_SNAKE` form is a given text. -/
theorem find?_normalized (enumName : Text) (declared : List Text) (form : Text) :
    ((ofDeclared enumName declared).values.find? (·.normalized = form)).map (·.declared) =
      declared.find? (Text.upperSnake · = form) := by
  have hfilter : (ofDeclared enumName declared).values.filter (·.normalized = form) =
      (ofDeclared enumName declared).values.filter (Text.upperSnake ·.declared = form) :=
    List.filter_congr fun value hvalue => by rw [normalized_eq hvalue]
  conv_rhs => rw [← ofDeclared_values_declared enumName declared, List.find?_map]
  rw [← List.head?_filter, ← List.head?_filter, hfilter]
  rfl

theorem find?_declared {name : Text} (hname : name ∈ declared) :
    ((ofDeclared enumName declared).values.find? (·.declared = name)).map (·.declared) =
      some name := by
  obtain ⟨value, hvalue, rfl⟩ := (mem_declared_iff enumName).mp hname
  obtain ⟨first, -, hdeclared, hfind⟩ :=
    exists_find?_eq_some (p := (·.declared = value.declared)) hvalue (by simp)
  rw [hfind, Option.map_some]
  simpa using hdeclared

/-- A declared name that is its own wire name means itself, for wire names are looked up first. -/
theorem meaning?_of_wireName?_eq {name : Text} (hne : name ≠ [])
    (hwire : (ofDeclared enumName declared).wireName? name = some name) :
    (ofDeclared enumName declared).meaning? name = some name := by
  obtain ⟨value, hvalue, hdeclared, rfl⟩ := wireName?_eq_some_iff.mp hwire
  rw [meaning?_wire hvalue hne, hdeclared]

/-- A declared name that is no wire name means what stands behind the prefix under it, if
anything does. -/
theorem meaning?_of_wireName?_ne {name : Text} (hname : name ∈ declared) (hne : name ≠ [])
    (hwire : (ofDeclared enumName declared).wireName? name ≠ some name) :
    (ofDeclared enumName declared).meaning? name =
      (declared.find? (Text.upperSnake · = prefixOf enumName ++ name)).or (some name) := by
  have hnone : (ofDeclared enumName declared).values.find? (·.wire = name) = none := by
    rw [List.find?_eq_none]
    intro value hvalue hvalue'
    obtain rfl : value.wire = name := by simpa using hvalue'
    apply hwire
    exact wireName?_eq_some_iff.mpr ⟨value, hvalue, declared_eq_of_wire_mem hvalue hname, rfl⟩
  rw [meaning?_eq _ hne, hnone, Option.map_none, Option.none_or, ofDeclared_enumPrefix,
    find?_normalized, find?_declared hname]

/-- A declared name that stands behind the prefix in its own `UPPER_SNAKE` form is its own wire
name. -/
theorem wireName?_of_upperSnake {name : Text} (hname : name ∈ declared)
    (h : Text.upperSnake name = prefixOf enumName ++ name) :
    (ofDeclared enumName declared).wireName? name = some name := by
  obtain ⟨value, hvalue, rfl⟩ := (mem_declared_iff enumName).mp hname
  refine wireName?_eq_some_iff.mpr ⟨value, hvalue, rfl, ?_⟩
  obtain ⟨i, hi⟩ := List.mem_iff_getElem?.mp hvalue
  have hvalue' := congrArg ValueNames.wire (ofDeclared_values_at hi).2
  exact hvalue'.trans (Candidate.wire_of_upperSnake _ h)

/-- **Which declared names mean themselves.** No wire name of another value is a declared name. A
declared name means itself unless it has a shorter wire name and some value has it behind the prefix
in its `UPPER_SNAKE` form: then it means the first such value, which is another. -/
theorem meaning?_declared_iff {name : Text} (hname : name ∈ declared) (hne : name ≠ []) :
    (∀ value ∈ (ofDeclared enumName declared).values, value.wire = name →
      value.declared = name) ∧
    ((ofDeclared enumName declared).meaning? name = some name ↔
      (ofDeclared enumName declared).wireName? name = some name ∨
        ∀ other ∈ declared, Text.upperSnake other ≠ prefixOf enumName ++ name) ∧
    ((ofDeclared enumName declared).meaning? name ≠ some name →
      ∃ other, other ≠ name ∧
        declared.find? (Text.upperSnake · = prefixOf enumName ++ name) = some other ∧
        (ofDeclared enumName declared).meaning? name = some other) := by
  constructor
  · intro value hvalue h
    exact (declared_eq_of_wire_mem hvalue (h ▸ hname)).trans h
  by_cases hwire : (ofDeclared enumName declared).wireName? name = some name
  · have hself := meaning?_of_wireName?_eq hne hwire
    exact ⟨by simp [hself, hwire], fun h => absurd hself h⟩
  have hmeaning := meaning?_of_wireName?_ne hname hne hwire
  cases hfind : declared.find? (Text.upperSnake · = prefixOf enumName ++ name) with
  | none =>
    rw [hfind, Option.none_or] at hmeaning
    have hfree : ∀ other ∈ declared, Text.upperSnake other ≠ prefixOf enumName ++ name := by
      intro other hother
      simpa using List.find?_eq_none.mp hfind other hother
    exact ⟨⟨fun _ => .inr hfree, fun _ => hmeaning⟩, fun h => absurd hmeaning h⟩
  | some other =>
    rw [hfind, Option.some_or] at hmeaning
    have hform : Text.upperSnake other = prefixOf enumName ++ name := by
      simpa using List.find?_some hfind
    -- The name itself cannot be the one found: it would be its own wire name then.
    have hother : other ≠ name := by
      rintro rfl
      exact hwire (wireName?_of_upperSnake hname hform)
    have hmeaning_ne : (ofDeclared enumName declared).meaning? name ≠ some name := by
      rw [hmeaning]
      exact fun h => hother (Option.some.inj h)
    refine ⟨⟨fun h => absurd h hmeaning_ne, ?_⟩, fun _ => ⟨other, hother, rfl, hmeaning⟩⟩
    rintro (h | h)
    · exact absurd h hwire
    · exact absurd hform (h other (List.mem_of_find?_eq_some hfind))

/-- A value whose name repeats the prefix takes the declared name of another. -/
theorem meaning?_declared_captured :
    ∃ other, other ≠ "A_B".toList ∧
      ["A_B".toList, "A_A_B".toList].find? (Text.upperSnake · = prefixOf "A" ++ "A_B".toList) =
        some other ∧
      (ofDeclared "A" ["A_B", "A_A_B"]).meaning? "A_B" = some other :=
  (meaning?_declared_iff (by decide) (by decide)).2.2 (by decide)

/-- Declared names do not always mean themselves, even where they are distinct and not empty. -/
theorem meaning?_declared_repeated_prefix :
    ¬ ∀ (enumName : Text) (declared : List Text), declared.Nodup →
      (∀ name ∈ declared, name ≠ []) →
      ∀ name ∈ declared, (ofDeclared enumName declared).meaning? name = some name := by
  intro h
  have hself := h "A" ["A_B", "A_A_B"] (by decide) (by decide) "A_B" (by decide)
  exact absurd hself (by decide)

end EnumCodegen.WireNames
