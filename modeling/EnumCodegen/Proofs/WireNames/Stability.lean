import EnumCodegen.Proofs.WireNames.Uniqueness
import Mathlib.Data.List.InsertIdx
import Mathlib.Data.List.Perm.Basic

/-!
# Wire names are stable

Whether a value keeps its short name depends on what the other values are called, but not on their
order. So reordering an enum changes no wire name, and adding values changes none that no added value
goes by: a short name stays free, and a value that had lost its short name to another value loses it
again.

## Main results

* `wireName?_eq_of_perm`: the wire name of a declared name, from the other declared names
* `Candidate.wire_append`: further values leave a wire name alone that none of them goes by
* `wireName?_stable`: wire names under reordering and extension
-/

namespace EnumCodegen.WireNames

variable {enumName : Text} {declared declared' others added : List Text} {name wire : Text}

/-! ## One candidate among different others -/

/-- The order of the others does not matter. -/
theorem Candidate.wire_perm (candidate : Candidate) {others others' : List Candidate}
    (h : others.Perm others') : candidate.wire others = candidate.wire others' := by
  unfold Candidate.wire
  split
  · rw [h.any_eq]
  · rfl

/-- **Further values leave a wire name alone** that none of them goes by. -/
theorem Candidate.wire_append (candidate : Candidate) (others : List Candidate)
    {added : List Candidate}
    (hadded : ∀ other ∈ added, other.goesBy (candidate.wire others) = false) :
    candidate.wire (others ++ added) = candidate.wire others := by
  unfold Candidate.wire at hadded ⊢
  split
  · next short hshort =>
    rw [hshort] at hadded
    rw [List.any_append]
    by_cases hothers : others.any (·.goesBy short) = true
    · -- the short name is lost already, and the others take it again
      rw [hothers, Bool.true_or]
    · simp only [hothers] at hadded
      have hfree : added.any (·.goesBy short) = false := by
        rw [List.any_eq_false]
        intro other hother
        simpa using hadded other hother
      rw [hfree, Bool.or_false]
  · rfl

/-! ## Tables of different lists

A value is compared with those at other indices, and two lists do not share their indices. They share
the other names, up to order: those of the list without one occurrence of the name. -/

theorem wireName?_eq_none (hname : name ∉ declared) :
    (ofDeclared enumName declared).wireName? name = none := by
  rw [Option.eq_none_iff_forall_ne_some]
  intro wire hwire
  obtain ⟨value, hvalue, hdeclared, -⟩ := wireName?_eq_some_iff.mp hwire
  exact hname ((mem_declared_iff enumName).mpr ⟨value, hvalue, hdeclared⟩)

/-- **The wire name of a declared name**, from the other declared names in any order. -/
theorem wireName?_eq_of_perm (h : declared.Perm (name :: others)) :
    (ofDeclared enumName declared).wireName? name =
      some ((Candidate.ofName (prefixOf enumName) name).wire (candidates enumName others)) := by
  have hname : name ∈ declared := h.mem_iff.mpr List.mem_cons_self
  obtain ⟨value, hvalue, rfl⟩ := (mem_declared_iff enumName).mp hname
  obtain ⟨i, hi⟩ := List.mem_iff_getElem?.mp hvalue
  obtain ⟨hplace, hnames⟩ := ofDeclared_values_at hi
  refine wireName?_eq_some_iff.mpr ⟨value, hvalue, rfl, ?_⟩
  -- Every place of the name leaves the same others, up to their order.
  have hothers : (declared.eraseIdx i).Perm others := by
    obtain ⟨hlt, hget⟩ := List.getElem?_eq_some_iff.mp hplace
    have herase := List.getElem_cons_eraseIdx_perm hlt
    rw [hget] at herase
    exact (herase.trans h).cons_inv
  have hcandidates :
      ((candidates enumName declared).eraseIdx i).Perm (candidates enumName others) := by
    rw [candidates, List.eraseIdx_map]
    exact hothers.map _
  calc value.wire
      = (Candidate.ofName (prefixOf enumName) value.declared).wire
          ((candidates enumName declared).eraseIdx i) := congrArg ValueNames.wire hnames
    _ = _ := Candidate.wire_perm _ hcandidates

/-- Names that differ from a wire name in all their forms do not go by it. -/
theorem goesBy_ofName_eq_false {other : Text} (hdeclared : other ≠ wire)
    (hnormalized : Text.upperSnake other ≠ wire)
    (hshort : Text.upperSnake other ≠ prefixOf enumName ++ wire) :
    (Candidate.ofName (prefixOf enumName) other).goesBy wire = false := by
  have hshort' : shortName? (prefixOf enumName) (Text.upperSnake other) ≠ some wire := by
    intro h
    have hprefix := (Option.filter_eq_some_iff.mp h).1
    exact hshort (List.isPrefixOf?_eq_some_iff_append_eq.mp hprefix).symm
  simp [Candidate.goesBy, Candidate.ofName, hdeclared, hnormalized, hshort']

/-- **Wire names are stable.** Reordering the values of an enum changes no wire name. Adding values
changes none that no added value goes by, in any of its forms, and it still means its value. -/
theorem wireName?_stable (enumName : Text) (declared : List Text) :
    (∀ declared', declared'.Perm declared → ∀ name,
      (ofDeclared enumName declared').wireName? name =
        (ofDeclared enumName declared).wireName? name) ∧
    ∀ declared' added, declared'.Perm (declared ++ added) → ∀ name ≠ [], ∀ wire,
      (ofDeclared enumName declared).wireName? name = some wire →
      (∀ other ∈ added, other ≠ wire ∧ Text.upperSnake other ≠ wire ∧
        Text.upperSnake other ≠ prefixOf enumName ++ wire) →
      (ofDeclared enumName declared').wireName? name = some wire ∧
        (ofDeclared enumName declared').meaning? wire = some name := by
  constructor
  · intro declared' hperm name
    by_cases hname : name ∈ declared
    · have hothers := List.perm_cons_erase hname
      rw [wireName?_eq_of_perm hothers, wireName?_eq_of_perm (hperm.trans hothers)]
    · rw [wireName?_eq_none hname, wireName?_eq_none (mt hperm.mem_iff.mp hname)]
  · intro declared' added hperm name hne wire hwire hadded
    have hname : name ∈ declared := by
      by_contra hname
      rw [wireName?_eq_none hname] at hwire
      exact absurd hwire (by simp)
    have hothers := List.perm_cons_erase hname
    rw [wireName?_eq_of_perm hothers, Option.some.injEq] at hwire
    have hfree : ∀ other ∈ candidates enumName added, other.goesBy wire = false := by
      intro other hother
      obtain ⟨form, hform, rfl⟩ := List.mem_map.mp hother
      obtain ⟨hdeclared, hnormalized, hshort⟩ := hadded form hform
      exact goesBy_ofName_eq_false hdeclared hnormalized hshort
    -- In the extended enum the name has the same others as before, and the added values.
    have hwire' : (ofDeclared enumName declared').wireName? name = some wire := by
      have hothers' : declared'.Perm (name :: (declared.erase name ++ added)) :=
        hperm.trans (hothers.append_right added)
      rw [wireName?_eq_of_perm hothers', candidates, List.map_append, ← hwire]
      exact congrArg some (Candidate.wire_append _ _ (hwire ▸ hfree))
    obtain ⟨value, hvalue, rfl, hvalue'⟩ := wireName?_eq_some_iff.mp hwire'
    have hwire_ne : value.wire ≠ [] := by
      rw [hvalue', ← hwire]
      exact Candidate.wire_ne_nil _ hne
    exact ⟨hwire', hvalue' ▸ meaning?_wire hvalue hwire_ne⟩

/-- The added value `OK` goes by `OK`, but not by the wire name of `STATUS_BAD`. -/
theorem wireName?_stable_extended :
    (ofDeclared "Status" ["OK", "STATUS_BAD", "STATUS_OK"]).wireName? "STATUS_BAD" =
        some "BAD".toList ∧
      (ofDeclared "Status" ["OK", "STATUS_BAD", "STATUS_OK"]).meaning? "BAD" =
        some "STATUS_BAD".toList :=
  (wireName?_stable "Status" ["STATUS_OK", "STATUS_BAD"]).2 ["OK", "STATUS_BAD", "STATUS_OK"] ["OK"]
    (by decide) "STATUS_BAD" (by decide) "BAD" (by decide) (by decide)

end EnumCodegen.WireNames
