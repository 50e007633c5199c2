import EnumCodegen.Proofs.Text.UpperSnake
import EnumCodegen.Proofs.WireNames.Stability

/-!
# The conventional prefix is recognized

By convention the name of a value is the upper snake form of its enum's name, an underscore, and the
name proper in upper snake case. Such a name is in upper snake case as a whole, so its own upper snake
form begins with the prefix and leaves the name proper. The value therefore travels under the name
proper, unless another value goes by it.

## Main results

* `goesBy_ofName_iff`: when a value goes by a name that starts with a letter
* `shortName?_conventional`: the short name of a conventional name is the name proper
* `wireName?_conventional`: the wire name of a conventional name
-/

namespace EnumCodegen.WireNames

open CharClass

variable {enumName name proper : Text} {declared : List Text}

/-- **When a value goes by a name that starts with a letter**: if it is declared by it, has it as
upper snake form, or has it behind the prefix there. -/
theorem goesBy_ofName_iff (hproper : proper.head?.any (·.isAlpha) = true) :
    (Candidate.ofName (prefixOf enumName) name).goesBy proper = true ↔
      name = proper ∨ Text.upperSnake name = proper ∨
        Text.upperSnake name = prefixOf enumName ++ proper := by
  have hshort : shortName? (prefixOf enumName) (Text.upperSnake name) = some proper ↔
      Text.upperSnake name = prefixOf enumName ++ proper := by
    rw [shortName?, Option.filter_eq_some_iff, List.isPrefixOf?_eq_some_iff_append_eq, eq_comm]
    exact and_iff_left hproper
  simp only [Candidate.goesBy, Candidate.ofName, decide_eq_true_eq, hshort]

/-- **The short name of a conventional name** is the name proper. -/
theorem shortName?_conventional (hascii : ∀ c ∈ enumName, isAscii c = true)
    (hname : Text.upperSnake enumName ≠ []) (hproper : Text.IsUpperSnake proper)
    (hhead : proper.head?.any (·.isAlpha) = true) :
    shortName? (prefixOf enumName) (Text.upperSnake (prefixOf enumName ++ proper)) =
      some proper := by
  have hne : proper ≠ [] := by
    rintro rfl
    cases hhead
  have hform : Text.IsUpperSnake (prefixOf enumName ++ proper) := by
    rw [prefixOf, List.append_assoc, List.singleton_append]
    exact (Text.isUpperSnake_upperSnake hascii).joined hname hproper hne
  rw [hform.upperSnake_eq, shortName?, Option.filter_eq_some_iff,
    List.isPrefixOf?_eq_some_iff_append_eq]
  exact ⟨rfl, hhead⟩

/-- **The wire name of a conventional name.** A value that is declared once, by the upper snake form
of its enum's name, an underscore and a name proper in upper snake case that starts with a letter,
travels under the name proper, unless another value is declared by it, has it as upper snake form, or
has it behind the prefix there. Then the value travels under its declared name. -/
theorem wireName?_conventional (hascii : ∀ c ∈ enumName, isAscii c = true)
    (hname : Text.upperSnake enumName ≠ []) (hproper : Text.IsUpperSnake proper)
    (hhead : proper.head?.any (·.isUpper) = true)
    (honce : declared.count (Text.upperSnake enumName ++ '_' :: proper) = 1) :
    ((∃ other ∈ declared, other ≠ Text.upperSnake enumName ++ '_' :: proper ∧
        (other = proper ∨ Text.upperSnake other = proper ∨
          Text.upperSnake other = Text.upperSnake enumName ++ '_' :: proper)) →
      (ofDeclared enumName declared).wireName? (Text.upperSnake enumName ++ '_' :: proper) =
        some (Text.upperSnake enumName ++ '_' :: proper)) ∧
    ((¬∃ other ∈ declared, other ≠ Text.upperSnake enumName ++ '_' :: proper ∧
        (other = proper ∨ Text.upperSnake other = proper ∨
          Text.upperSnake other = Text.upperSnake enumName ++ '_' :: proper)) →
      (ofDeclared enumName declared).wireName? (Text.upperSnake enumName ++ '_' :: proper) =
        some proper) := by
  have hjoined : Text.upperSnake enumName ++ '_' :: proper = prefixOf enumName ++ proper := by
    rw [prefixOf, List.append_assoc, List.singleton_append]
  have halpha : proper.head?.any (·.isAlpha) = true := by
    obtain ⟨c, hc, hupper⟩ := (Option.any_eq_true _ _).mp hhead
    rw [hc]
    exact Bool.or_eq_true_iff.mpr (.inl hupper)
  simp only [hjoined] at honce ⊢
  -- the others are the values with another name, for the name is declared once
  have hmem : prefixOf enumName ++ proper ∈ declared := List.count_pos_iff.mp (by omega)
  have hothers (other : Text) : other ∈ declared.erase (prefixOf enumName ++ proper) ↔
      other ∈ declared ∧ other ≠ prefixOf enumName ++ proper := by
    rcases eq_or_ne other (prefixOf enumName ++ proper) with rfl | hother
    · have hcount : (declared.erase (prefixOf enumName ++ proper)).count
          (prefixOf enumName ++ proper) = 0 := by
        rw [List.count_erase_self, honce]
      simp [List.count_eq_zero.mp hcount]
    · simp [List.mem_erase_of_ne hother, hother]
  have hcollides : (candidates enumName (declared.erase (prefixOf enumName ++ proper))).any
      (·.goesBy proper) = true ↔
      ∃ other ∈ declared, other ≠ prefixOf enumName ++ proper ∧
        (other = proper ∨ Text.upperSnake other = proper ∨
          Text.upperSnake other = prefixOf enumName ++ proper) := by
    simp only [candidates, List.any_map, List.any_eq_true, Function.comp_apply,
      goesBy_ofName_iff halpha, hothers, and_assoc]
  have hshort := shortName?_conventional hascii hname hproper halpha
  rw [wireName?_eq_of_perm (List.perm_cons_erase hmem), Candidate.wire]
  simp only [Candidate.ofName, hshort, ← hcollides]
  constructor
  · intro hany
    rw [if_pos hany]
  · intro hany
    rw [if_neg hany]

/-- The name proper `GONE_2` is free, and `OK` is taken by a value in another case style. -/
theorem wireName?_conventional_httpStatus :
    let declared : List Text := ["HTTP_STATUS_OK", "httpStatusOk", "HTTP_STATUS_GONE_2"]
    (ofDeclared "HTTPStatus" declared).wireName? "HTTP_STATUS_GONE_2" = some "GONE_2".toList ∧
      (ofDeclared "HTTPStatus" declared).wireName? "HTTP_STATUS_OK" =
        some "HTTP_STATUS_OK".toList := by
  intro declared
  have hascii : ∀ c ∈ "HTTPStatus".toList, isAscii c = true := List.all_eq_true.mp (by decide)
  have hgone : Text.IsUpperSnake ['G', 'O', 'N', 'E', '_', '2'] :=
    ⟨[['G', 'O', 'N', 'E'], ['2']], by decide, by simp [isCapital]⟩
  have hok : Text.IsUpperSnake ['O', 'K'] := ⟨[['O', 'K']], by decide, by simp [isCapital]⟩
  have hgoneOnce : declared.count
      (Text.upperSnake "HTTPStatus" ++ '_' :: ['G', 'O', 'N', 'E', '_', '2']) = 1 := by decide
  have hokOnce : declared.count (Text.upperSnake "HTTPStatus" ++ '_' :: ['O', 'K']) = 1 := by decide
  constructor
  · exact (wireName?_conventional hascii (by decide) hgone (by decide) hgoneOnce).2 (by decide)
  · exact (wireName?_conventional hascii (by decide) hok (by decide) hokOnce).1
      ⟨"httpStatusOk", by decide, by decide, by decide⟩

end EnumCodegen.WireNames
