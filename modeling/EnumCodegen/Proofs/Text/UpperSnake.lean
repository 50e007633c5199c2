import EnumCodegen.Proofs.Text.Snake

/-!
# Names in upper snake case keep their form

A name in upper snake case consists of groups of capitals and digits between single underscores. No
group has a change of case at which it could be cut, so the words of such a name are its groups, and
the conversion to upper snake case leaves it alone. It yields such a name from every ASCII name.

## Main definitions

* `CharClass.isCapital`: capitals and digits
* `Text.IsUpperSnake`: names in upper snake case

## Main results

* `Text.words_append_cons`: the words on either side of a separator
* `Text.IsUpperSnake.upperSnake_eq`: such names are left alone
* `Text.isUpperSnake_upperSnake`: the conversion yields such names
* `Text.IsUpperSnake.joined`: such names joined by an underscore are one
-/

namespace EnumCodegen

namespace CharClass

/-- **Capitals and digits** of ASCII. -/
def isCapital (c : Char) : Bool :=
  c.isUpper || c.isDigit

theorem isAlphanum_of_isCapital {c : Char} (hc : isCapital c = true) : c.isAlphanum = true := by
  rcases Bool.or_eq_true_iff.mp hc with hupper | hdigit
  · have halpha : c.isAlpha = true := Bool.or_eq_true_iff.mpr (.inl hupper)
    exact Bool.or_eq_true_iff.mpr (.inl halpha)
  · exact Bool.or_eq_true_iff.mpr (.inr hdigit)

theorem isAscii_of_isCapital {c : Char} (hc : isCapital c = true) : isAscii c = true :=
  isAscii_of_isAlphanum (isAlphanum_of_isCapital hc)

/-- Capitals and digits are in upper case already. -/
theorem isCapital_cases {c : Char} (hc : isCapital c = true) :
    c.isLower = false ∧ c.toUpper = c := by
  have hascii := isAscii_of_isCapital hc
  revert hc
  apply of_isAscii _ hascii
  decide +kernel

theorem isCapital_toUpper {c : Char} (hc : c.isAlphanum = true) : isCapital c.toUpper = true := by
  have hascii := isAscii_of_isAlphanum hc
  revert hc
  apply of_isAscii _ hascii
  decide +kernel

theorem isAlphanumeric_of_isCapital {c : Char} (hc : isCapital c = true) :
    isAlphanumeric c = true := by
  rw [isAlphanumeric_ascii (isAscii_of_isCapital hc)]
  exact isAlphanum_of_isCapital hc

theorem isLowercase_of_isCapital {c : Char} (hc : isCapital c = true) : isLowercase c = false := by
  rw [isLowercase_ascii (isAscii_of_isCapital hc)]
  exact (isCapital_cases hc).1

end CharClass

namespace Text

open CharClass

/-! ## Words -/

/-- **The words on either side of a separator** are those of the whole. -/
theorem words_append_cons {c : Char} (hc : isAlphanumeric c = false) (front back : Text) :
    words (front ++ c :: back) = words front ++ words back := by
  unfold words
  rw [List.splitOnP_append_cons front back (by simpa using hc), List.flatMap_append]

theorem after_ne_lower {trend : CaseTrend} (htrend : trend ≠ .lower) {c : Char}
    (hc : isLowercase c = false) : trend.after c ≠ .lower := by
  unfold CaseTrend.after
  rw [if_neg (by simp [hc])]
  split <;> simp [htrend]

/-- A piece without lower case has no change of case. The trend in it never becomes that of lower
case, behind which alone a capital starts a word. -/
theorem splitAtCase_of_forall_not_lower {trend : CaseTrend} (htrend : trend ≠ .lower) {piece : Text}
    (hne : piece ≠ []) (hpiece : ∀ c ∈ piece, isLowercase c = false) :
    splitAtCase trend piece = [piece] := by
  fun_induction splitAtCase trend piece with
  | case1 => exact absurd rfl hne
  | case2 => rfl
  | case3 trend c d rest hcut ih =>
    exact absurd hcut.1 (after_ne_lower htrend (hpiece c List.mem_cons_self))
  | case4 trend c d rest _ hcut ih =>
    have hd := hpiece d (by simp)
    rw [hd] at hcut
    exact absurd hcut.2.2 (by simp)
  | case5 trend c d rest _ _ ih =>
    have hrest : ∀ c' ∈ d :: rest, isLowercase c' = false :=
      fun c' hc' => hpiece c' (List.mem_cons_of_mem c hc')
    rw [ih (after_ne_lower htrend (hpiece c List.mem_cons_self)) (by simp) hrest]
    rfl

/-- A group of capitals and digits is one word. -/
theorem words_of_forall_isCapital {group : Text} (hne : group ≠ [])
    (hgroup : ∀ c ∈ group, isCapital c = true) : words group = [group] := by
  have hpiece : group.splitOnP (!isAlphanumeric ·) = [group] := by
    refine List.splitOnP_eq_singleton fun c hc => ?_
    simp [isAlphanumeric_of_isCapital (hgroup c hc)]
  rw [words, hpiece, List.flatMap_singleton]
  exact splitAtCase_of_forall_not_lower (by simp) hne fun c hc =>
    isLowercase_of_isCapital (hgroup c hc)

/-! ## Names in upper snake case -/

/-- **Names in upper snake case**: groups of capitals and digits between single underscores. -/
def IsUpperSnake (name : Text) : Prop :=
  ∃ groups : List Text, name = ['_'].intercalate groups ∧
    ∀ group ∈ groups, group ≠ [] ∧ ∀ c ∈ group, isCapital c = true

variable {name name' : Text}

/-- The words of such a name are its groups. -/
theorem words_intercalate {groups : List Text}
    (hgroups : ∀ group ∈ groups, group ≠ [] ∧ ∀ c ∈ group, isCapital c = true) :
    words (['_'].intercalate groups) = groups := by
  induction groups with
  | nil => rfl
  | cons group groups ih =>
    obtain ⟨⟨hne, hgroup⟩, hgroups⟩ := List.forall_mem_cons.mp hgroups
    cases groups with
    | nil => rw [List.intercalate_singleton, words_of_forall_isCapital hne hgroup]
    | cons next groups =>
      have hsplit : ['_'].intercalate (group :: next :: groups) =
          group ++ '_' :: ['_'].intercalate (next :: groups) := by
        rw [List.intercalate_cons_cons, List.append_assoc, List.singleton_append]
      rw [hsplit, words_append_cons (by decide), words_of_forall_isCapital hne hgroup, ih hgroups,
        List.singleton_append]

/-- **Names in upper snake case are left alone.** -/
theorem IsUpperSnake.upperSnake_eq (h : IsUpperSnake name) : upperSnake name = name := by
  obtain ⟨groups, rfl, hgroups⟩ := h
  have hupper : groups.map uppercase = groups := by
    conv_rhs => rw [← List.map_id groups]
    refine List.map_congr_left fun group hgroup => ?_
    have hcapital := (hgroups group hgroup).2
    rw [uppercase_ascii fun c hc => isAscii_of_isCapital (hcapital c hc), id,
      List.map_congr_left fun c hc => (isCapital_cases (hcapital c hc)).2, List.map_id']
  rw [upperSnake, words_intercalate hgroups, hupper]

/-- **The conversion of an ASCII name** yields a name in upper snake case. -/
theorem isUpperSnake_upperSnake (hname : ∀ c ∈ name, isAscii c = true) :
    IsUpperSnake (upperSnake name) := by
  refine ⟨(words name).map uppercase, rfl, ?_⟩
  intro group hgroup
  obtain ⟨word, hword, rfl⟩ := List.mem_map.mp hgroup
  have hascii : ∀ c ∈ word, isAscii c = true := fun c hc => hname c (mem_of_mem_words hword hc).1
  rw [uppercase_ascii hascii]
  refine ⟨by simpa using ne_nil_of_mem_words hword, ?_⟩
  intro c hc
  obtain ⟨d, hd, rfl⟩ := List.mem_map.mp hc
  have hletter := (mem_of_mem_words hword hd).2
  rw [isAlphanumeric_ascii (hascii d hd)] at hletter
  exact isCapital_toUpper hletter

/-- **Names in upper snake case joined by an underscore** are one, unless one of them is empty. -/
theorem IsUpperSnake.joined (h : IsUpperSnake name) (hne : name ≠ []) (h' : IsUpperSnake name')
    (hne' : name' ≠ []) : IsUpperSnake (name ++ '_' :: name') := by
  obtain ⟨groups, rfl, hgroups⟩ := h
  obtain ⟨groups', rfl, hgroups'⟩ := h'
  refine ⟨groups ++ groups', ?_, ?_⟩
  · obtain ⟨group', later', rfl⟩ : ∃ group' later', groups' = group' :: later' := by
      refine List.exists_cons_of_ne_nil ?_
      rintro rfl
      exact hne' rfl
    cases groups with
    | nil => exact absurd rfl hne
    | cons group later =>
      rw [List.cons_append, intercalate_cons, intercalate_cons, intercalate_cons,
        List.flatMap_append, List.flatMap_cons]
      simp
  · intro group hgroup
    rcases List.mem_append.mp hgroup with hgroup | hgroup
    · exact hgroups group hgroup
    · exact hgroups' group hgroup

end Text

end EnumCodegen
