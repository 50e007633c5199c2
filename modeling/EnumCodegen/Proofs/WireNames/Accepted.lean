import EnumCodegen.Proofs.Traversal
import EnumCodegen.Proofs.WireNames.Uniqueness

/-!
# The accepted inputs are those with a meaning

The accepted inputs are listed in the order of the three searches, and of several entries for one
input the first stays. Each search becomes the look-up of its part of the list, so looking an input
up in the list finds its meaning. Nothing is assumed about the names here: the agreement holds of
any table.

## Main results

* `lookup_firstPerInput`, `nodup_firstPerInput`: what keeping the first entry of each input preserves
* `lookup_accepted`: the meaning of a text by look-up
* `accepted_eq_meaning?`: the accepted inputs list exactly the texts with a meaning, each once
-/

namespace EnumCodegen.WireNames

/-! ## Keeping the first entry of each input -/

theorem lookup_filter_ne {entries : List (Text × Text)} {input other : Text} (h : input ≠ other) :
    (entries.filter (·.1 ≠ other)).lookup input = entries.lookup input := by
  induction entries with
  | nil => rfl
  | cons entry rest ih =>
    by_cases hentry : entry.1 = other
    · have hne : (input == entry.1) = false := by simpa [hentry] using h
      rw [List.filter_cons_of_neg (by simpa using hentry), ih, List.lookup_cons, hne]
    · rw [List.filter_cons_of_pos (by simpa using hentry), List.lookup_cons, List.lookup_cons, ih]

/-- Keeping the first entry of each input changes no look-up. -/
theorem lookup_firstPerInput (entries : List (Text × Text)) (input : Text) :
    (firstPerInput entries).lookup input = entries.lookup input := by
  induction entries with
  | nil => rfl
  | cons entry rest ih =>
    rw [firstPerInput, List.lookup_cons, List.lookup_cons]
    cases hentry : input == entry.1 with
    | true => rfl
    | false => exact (lookup_filter_ne (by simpa using hentry)).trans ih

/-- Keeping the first entry of each input leaves no input twice. -/
theorem nodup_firstPerInput (entries : List (Text × Text)) :
    ((firstPerInput entries).map (·.1)).Nodup := by
  induction entries with
  | nil => exact List.nodup_nil
  | cons entry rest ih =>
    rw [firstPerInput, List.map_cons, List.nodup_cons]
    constructor
    · intro hmem
      obtain ⟨other, hother, heq⟩ := List.mem_map.mp hmem
      exact absurd heq (by simpa using (List.mem_filter.mp hother).2)
    · exact (List.filter_sublist.map _).nodup ih

/-! ## The three searches -/

section Searches

variable {α : Type}

/-- Looking up in the entries that some members of a list have is searching the list. -/
theorem lookup_filterMap (key? : α → Option Text) (output : α → Text) (members : List α)
    (input : Text) :
    (members.filterMap fun member => (key? member).map (·, output member)).lookup input =
      (members.find? (key? · = some input)).map output := by
  induction members with
  | nil => rfl
  | cons member members ih =>
    cases hkey : key? member with
    | none =>
      rw [List.filterMap_cons_none (by simp [hkey]), List.find?_cons_of_neg (by simp [hkey]), ih]
    | some key =>
      rw [List.filterMap_cons_some (by rw [hkey]; rfl), List.lookup_cons]
      by_cases hinput : input = key
      · rw [List.find?_cons_of_pos (by simp [hkey, hinput])]
        simp [hinput]
      · have hne : (input == key) = false := by simpa using hinput
        rw [List.find?_cons_of_neg (by simpa [hkey] using Ne.symm hinput), hne]
        exact ih

/-- Looking up in the entries that all members of a list have is searching the list. -/
theorem lookup_map (key output : α → Text) (members : List α) (input : Text) :
    (members.map fun member => (key member, output member)).lookup input =
      (members.find? (key · = input)).map output := by
  have h := lookup_filterMap (fun member => some (key member)) output members input
  simpa [List.filterMap_eq_map'] using h

end Searches

/-- What stands behind the prefix, of inputs that are not empty. -/
theorem behindPrefix?_eq_some_iff {names : WireNames} {value : ValueNames} {input : Text}
    (hinput : input ≠ []) :
    names.behindPrefix? value = some input ↔ value.normalized = names.enumPrefix ++ input := by
  rw [behindPrefix?, Option.filter_eq_some_iff, List.isPrefixOf?_eq_some_iff_append_eq]
  constructor
  · rintro ⟨h, -⟩
    exact h.symm
  · intro h
    exact ⟨h.symm, by simpa using hinput⟩

/-- **Looking a text up in the accepted inputs finds its meaning.** -/
theorem lookup_accepted (names : WireNames) {input : Text} (hinput : input ≠ []) :
    names.accepted.lookup input = names.meaning? input := by
  have hbehind : (names.values.find? (names.behindPrefix? · = some input)) =
      names.values.find? (·.normalized = names.enumPrefix ++ input) := by
    simp only [behindPrefix?_eq_some_iff hinput]
  -- Looking up in the three parts one after the other is searching three times.
  rw [accepted, lookup_firstPerInput, List.lookup_append, List.lookup_append, lookup_map,
    lookup_filterMap, lookup_map, hbehind, Option.or_assoc, meaning?_eq names hinput]

/-- **The accepted inputs list exactly the texts with a meaning**: no input twice, each that is not
empty with what it means. -/
theorem accepted_eq_meaning? (names : WireNames) :
    (names.accepted.map (·.1)).Nodup ∧
      ∀ input : Text, input ≠ [] →
        names.accepted.lookup input = names.meaning? input ∧
          ∀ name, (input, name) ∈ names.accepted ↔ names.meaning? input = some name := by
  have hnodup : (names.accepted.map (·.1)).Nodup := nodup_firstPerInput _
  refine ⟨hnodup, ?_⟩
  intro input hinput
  refine ⟨lookup_accepted names hinput, ?_⟩
  intro name
  rw [← lookup_accepted names hinput, lookup_eq_some_iff_mem hnodup]

/-- `A_B` is an input of two values and listed for the one that it means. -/
theorem accepted_eq_meaning?_ambiguous :
    (ofDeclared "A" ["A_B", "A_A_B"]).accepted.lookup "A_B".toList =
        (ofDeclared "A" ["A_B", "A_A_B"]).meaning? "A_B" ∧
      ∀ name, ("A_B".toList, name) ∈ (ofDeclared "A" ["A_B", "A_A_B"]).accepted ↔
        (ofDeclared "A" ["A_B", "A_A_B"]).meaning? "A_B" = some name :=
  (accepted_eq_meaning? (ofDeclared "A" ["A_B", "A_A_B"])).2 "A_B" (by decide)

end EnumCodegen.WireNames
