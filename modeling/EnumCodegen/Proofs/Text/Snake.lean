import EnumCodegen.Proofs.Text.Casing
import Mathlib.Data.List.Chain

/-!
# Names in snake case come apart

The words of a name are not empty, and no change of case makes an underscore. So the underscores in
the `snake` form of a name are those between its words: none stands at either end, and no two stand
in a row. A double underscore between such forms can then be told from what they hold, even where a
name has no words at all and its form is empty.

## Main definitions

* `Text.IsLevel`: what may stand between double underscores

## Main results

* `Text.isLevel_snake`: names in `snake` case are levels
* `Text.intercalate_isLevel_inj`: levels joined by double underscores come apart
* `Text.upperCamel_eq_of_snake_eq`: ASCII names with one `snake` form have one `UpperCamel` form
-/

namespace EnumCodegen.Text

open CharClass

/-! ## Words -/

/-- The cut at case changes makes no empty word. Only a word that the cut continues, and that has just
ended, leaves an empty entry at the front, and such words are in upper case. -/
theorem ne_nil_of_mem_splitAtCase (trend : CaseTrend) (piece : Text) :
    (trend ≠ .upper → ∀ word ∈ splitAtCase trend piece, word ≠ []) ∧
      ∀ word ∈ (splitAtCase trend piece).tail, word ≠ [] := by
  -- a character in front fills the first entry, so that only the others matter
  have hcons (c : Char) {words : List Text} (htail : ∀ word ∈ words.tail, word ≠ []) :
      ∀ word ∈ words.modifyHead (c :: ·), word ≠ [] := by
    cases words with
    | nil => simp
    | cons first words =>
      rw [List.modifyHead_cons, List.forall_mem_cons]
      exact ⟨List.cons_ne_nil c first, htail⟩
  fun_induction splitAtCase trend piece with
  | case1 => simp
  | case2 => simp
  | case3 trend c d rest _ ih =>
    -- the word ends behind `c`, and the cut starts anew
    have hrest : ∀ word ∈ splitAtCase .start (d :: rest), word ≠ [] := ih.1 (by simp)
    exact ⟨fun _ => List.forall_mem_cons.mpr ⟨List.cons_ne_nil c [], hrest⟩, hrest⟩
  | case4 trend c d rest _ hended ih =>
    -- the word ends before `c`, which only happens in upper case
    exact ⟨fun htrend => absurd hended.1 htrend, hcons c ih.2⟩
  | case5 trend c d rest _ _ ih =>
    -- the word goes on
    exact ⟨fun _ => hcons c ih.2, fun word hword => hcons c ih.2 word (List.mem_of_mem_tail hword)⟩

/-- **Words are not empty.** -/
theorem ne_nil_of_mem_words {name word : Text} (hword : word ∈ words name) : word ≠ [] := by
  obtain ⟨piece, -, hword⟩ := List.mem_flatMap.mp hword
  exact (ne_nil_of_mem_splitAtCase .start piece).1 (by simp) word hword

theorem mapped_ne_nil {expansions : List (Nat × List Nat)} {runs : List CaseRun}
    (hexpansions : ∀ entry ∈ expansions, entry.2 ≠ []) (c : Char) :
    mapped expansions runs c ≠ [] := by
  unfold mapped
  split
  · next images hlookup =>
    obtain ⟨before, after, rfl, -⟩ := List.lookup_eq_some_iff.mp hlookup
    have himages : images ≠ [] := hexpansions (c.toNat, images) (by simp)
    simpa using himages
  · split <;> simp

theorem lowercased_ne_nil (c : Char) : lowercased c ≠ [] := by
  unfold lowercased
  split
  · simp
  · exact mapped_ne_nil (by decide) c

/-- A word keeps characters in lower case. -/
theorem lowercase_ne_nil {word : Text} (h : word ≠ []) : lowercase word ≠ [] := by
  fun_cases lowercase word with
  | case1 => exact absurd rfl h
  | case2 => simp
  | case3 c => exact lowercased_ne_nil c
  | case4 c rest => simp [lowercased_ne_nil]

theorem underscore_notMem_lowercase {name word : Text} (hword : word ∈ words name) :
    '_' ∉ lowercase word := by
  intro hmem
  have hname := isNameChar_lowercase (fun _ => isNameChar_of_mem_words hword) hmem
  exact absurd hname (by decide)

/-- **The words of a name in lower case**: not empty, and without underscores. -/
theorem lowercase_words (name : Text) :
    ∀ part ∈ (words name).map lowercase, part ≠ [] ∧ '_' ∉ part := by
  intro part hpart
  obtain ⟨word, hword, rfl⟩ := List.mem_map.mp hpart
  exact ⟨lowercase_ne_nil (ne_nil_of_mem_words hword), underscore_notMem_lowercase hword⟩

/-! ## Levels

An underscore at the end of a level would run into the ones behind it, so levels are free of double
underscores with one more underscore behind them. At the front nothing is needed. -/

/-- No two underscores stand in a row. -/
def SingleUnderscores (text : Text) : Prop :=
  text.IsChain fun c d => ¬(c = '_' ∧ d = '_')

/-- **A level**: no two underscores stand in a row in it, even with one behind it. -/
def IsLevel (level : Text) : Prop :=
  SingleUnderscores (level ++ ['_'])

/-- Text without underscores may go on with an underscore. -/
theorem SingleUnderscores.append {part rest : Text} (hpart : '_' ∉ part)
    (hrest : SingleUnderscores rest) : SingleUnderscores (part ++ rest) := by
  induction part with
  | nil => exact hrest
  | cons c part ih =>
    rw [List.mem_cons, not_or] at hpart
    refine List.isChain_cons.mpr ⟨?_, ih hpart.2⟩
    rintro d - ⟨hc, -⟩
    exact hpart.1 hc.symm

/-- **Parts joined by underscores** are a level, if no part is empty or holds one. -/
theorem isLevel_intercalate {parts : List Text} (hparts : ∀ part ∈ parts, part ≠ [] ∧ '_' ∉ part) :
    IsLevel (['_'].intercalate parts) := by
  induction parts with
  | nil => exact List.isChain_singleton '_'
  | cons part parts ih =>
    obtain ⟨⟨-, hpart⟩, hparts⟩ := List.forall_mem_cons.mp hparts
    cases parts with
    | nil =>
      rw [List.intercalate_singleton]
      exact .append hpart (List.isChain_singleton '_')
    | cons next parts =>
      -- the underscore before the next part stands before a character of it
      obtain ⟨hne, hnext⟩ := hparts next List.mem_cons_self
      obtain ⟨c, next, rfl⟩ := List.exists_cons_of_ne_nil hne
      have hc : c ≠ '_' := fun h => hnext (h ▸ List.mem_cons_self)
      have hrest : SingleUnderscores (['_'].intercalate ((c :: next) :: parts) ++ ['_']) :=
        ih hparts
      rw [IsLevel, List.intercalate_cons_cons, List.append_assoc, List.append_assoc]
      refine .append hpart (List.isChain_cons.mpr ⟨?_, hrest⟩)
      rw [intercalate_cons]
      rintro d hd ⟨-, rfl⟩
      exact hc (Option.some.inj hd)

/-- **Names in `snake` case** are levels. -/
theorem isLevel_snake (name : Text) : IsLevel (snake name) :=
  isLevel_intercalate (lowercase_words name)

/-- A level does not reach into the double underscore behind a shorter one. -/
theorem IsLevel.eq_nil {front back rest rest' : Text} (h : IsLevel (front ++ back))
    (heq : back ++ rest = '_' :: '_' :: rest') : back = [] := by
  rw [IsLevel, List.append_assoc] at h
  have hchain : SingleUnderscores (back ++ ['_']) := (List.isChain_append.mp h).2.1
  cases back with
  | nil => rfl
  | cons c back =>
    exfalso
    obtain ⟨hc, hback⟩ := List.cons.inj heq
    cases back with
    | nil => exact (List.isChain_cons.mp hchain).1 '_' rfl ⟨hc, rfl⟩
    | cons d back =>
      obtain ⟨hd, -⟩ := List.cons.inj hback
      exact (List.isChain_cons.mp hchain).1 d rfl ⟨hc, hd⟩

/-- **Levels are read off the front** of text that ends with them or goes on with a double
underscore. -/
theorem IsLevel.append_inj {level level' : Text} (h : IsLevel level) (h' : IsLevel level')
    {later later' : List Text}
    (heq : level ++ later.flatMap (['_', '_'] ++ ·) = level' ++ later'.flatMap (['_', '_'] ++ ·)) :
    level = level' ∧
      later.flatMap (['_', '_'] ++ ·) = later'.flatMap (['_', '_'] ++ ·) := by
  have hend {front back rest : Text} {later : List Text} (h : IsLevel (front ++ back))
      (heq : later.flatMap (['_', '_'] ++ ·) = back ++ rest) : back = [] := by
    cases later with
    | nil => exact (List.append_eq_nil_iff.mp heq.symm).1
    | cons part later => exact h.eq_nil heq.symm
  -- of two levels at the front one begins the other, and nothing is left between them
  rcases List.append_eq_append_iff.mp heq with ⟨back, rfl, hlater⟩ | ⟨back, rfl, hlater⟩
  · obtain rfl := hend h' hlater
    exact ⟨(List.append_nil level).symm, hlater⟩
  · obtain rfl := hend h hlater
    exact ⟨List.append_nil level', hlater.symm⟩

/-- **Levels joined by double underscores come apart.** -/
theorem intercalate_isLevel_inj {levels levels' : List Text} (hne : levels ≠ [])
    (hne' : levels' ≠ []) (hlevels : ∀ level ∈ levels, IsLevel level)
    (hlevels' : ∀ level ∈ levels', IsLevel level)
    (h : ['_', '_'].intercalate levels = ['_', '_'].intercalate levels') : levels = levels' := by
  induction levels generalizing levels' with
  | nil => exact absurd rfl hne
  | cons level later ih =>
    obtain ⟨level', later', rfl⟩ := List.exists_cons_of_ne_nil hne'
    obtain ⟨hlevel, hlater⟩ := List.forall_mem_cons.mp hlevels
    obtain ⟨hlevel', hlater'⟩ := List.forall_mem_cons.mp hlevels'
    rw [intercalate_cons, intercalate_cons] at h
    obtain ⟨rfl, hrest⟩ := hlevel.append_inj hlevel' h
    -- the first levels agree, and what is left begins with a double underscore or is empty
    cases later with
    | nil =>
      cases later' with
      | nil => rfl
      | cons next' later' => simp at hrest
    | cons next later =>
      cases later' with
      | nil => simp at hrest
      | cons next' later' =>
        rw [List.flatMap_cons, List.flatMap_cons, List.append_assoc, List.append_assoc,
          List.append_cancel_left_eq, ← intercalate_cons, ← intercalate_cons] at hrest
        rw [ih (by simp) (by simp) hlater hlater' hrest]

/-! ## ASCII names

Beyond ASCII, words that differ may agree in lower case and differ again in upper case. On ASCII the
lower case of a word determines its capitalized form, and a text in lower case comes back from its
upper case. -/

/-- **The words of a name in lower case** are what its `snake` form holds between underscores. A form
without words is one empty piece. -/
theorem lowercase_words_eq (name : Text) :
    (words name).map lowercase = ((snake name).splitOn '_').filter (· ≠ []) := by
  have hparts := lowercase_words name
  rw [snake]
  cases h : (words name).map lowercase with
  | nil => rfl
  | cons part parts =>
    rw [h] at hparts
    rw [List.splitOn_intercalate '_' (fun part hpart => (hparts part hpart).2) (by simp),
      List.filter_eq_self.mpr fun part hpart => decide_eq_true (hparts part hpart).1]

theorem lowercase_cons_ascii {c : Char} (hc : isAscii c = true) (rest : Text) :
    lowercase (c :: rest) = c.toLower :: lowercase rest := by
  have hsigma : c ≠ 'Σ' := by
    rintro rfl
    exact absurd hc (by decide)
  cases rest with
  | nil => simp [lowercase, hsigma, lowercased_ascii hc]
  | cons d rest => simp [lowercase, lowercased_ascii hc]

theorem capitalize_ascii {word : Text} (hword : ∀ c ∈ word, isAscii c = true) :
    capitalize word = (lowercase word).modifyHead Char.toUpper := by
  cases word with
  | nil => rfl
  | cons c rest =>
    have hc : isAscii c = true := hword c List.mem_cons_self
    rw [lowercase_cons_ascii hc, capitalize, uppercased_ascii hc, List.modifyHead_cons,
      (changeCase_ascii hc).1, List.singleton_append]

/-- **The `UpperCamel` form of an ASCII name** capitalizes its words in lower case. -/
theorem upperCamel_ascii {name : Text} (hname : ∀ c ∈ name, isAscii c = true) :
    upperCamel name = ((words name).map lowercase).flatMap (·.modifyHead Char.toUpper) := by
  rw [upperCamel, List.flatMap_map]
  apply List.flatMap_congr
  intro word hword
  exact capitalize_ascii fun c hc => hname c (mem_of_mem_words hword hc).1

/-- **ASCII names with one `snake` form** have one `UpperCamel` form. -/
theorem upperCamel_eq_of_snake_eq {name name' : Text} (hname : ∀ c ∈ name, isAscii c = true)
    (hname' : ∀ c ∈ name', isAscii c = true) (h : snake name = snake name') :
    upperCamel name = upperCamel name' := by
  rw [upperCamel_ascii hname, upperCamel_ascii hname', lowercase_words_eq, h, ← lowercase_words_eq]

theorem lowercase_ascii {word : Text} (hword : ∀ c ∈ word, isAscii c = true) :
    lowercase word = word.map Char.toLower := by
  induction word with
  | nil => rfl
  | cons c rest ih =>
    obtain ⟨hc, hrest⟩ := List.forall_mem_cons.mp hword
    rw [lowercase_cons_ascii hc, ih hrest, List.map_cons]

/-- **The characters of the `snake` form** of an ASCII name are ASCII, and in lower case. -/
theorem mem_snake_ascii {name : Text} (hname : ∀ c ∈ name, isAscii c = true) {c : Char}
    (hc : c ∈ snake name) : isAscii c = true ∧ c.toLower = c := by
  rcases mem_intercalate hc with hc | ⟨part, hpart, hc⟩
  · rw [List.mem_singleton.mp hc]
    decide
  · obtain ⟨word, hword, rfl⟩ := List.mem_map.mp hpart
    have hascii : ∀ d ∈ word, isAscii d = true := fun d hd => hname d (mem_of_mem_words hword hd).1
    rw [lowercase_ascii hascii] at hc
    obtain ⟨d, hd, rfl⟩ := List.mem_map.mp hc
    refine ⟨?_, (changeCase_ascii (hascii d hd)).2.1⟩
    exact isAscii_of_isAlphanum
      (isAlphanum_cases (hascii d hd) (isNameChar_of_mem_words hword hd)).2

theorem uppercase_ascii {text : Text} (htext : ∀ c ∈ text, isAscii c = true) :
    uppercase text = text.map Char.toUpper := by
  rw [uppercase, List.map_eq_flatMap]
  exact List.flatMap_congr fun c hc => uppercased_ascii (htext c hc)

/-- **ASCII text in lower case** comes back from its upper case. -/
theorem map_toLower_uppercase {text : Text}
    (htext : ∀ c ∈ text, isAscii c = true ∧ c.toLower = c) :
    (uppercase text).map Char.toLower = text := by
  rw [uppercase_ascii fun c hc => (htext c hc).1, List.map_map]
  conv_rhs => rw [← List.map_id text]
  apply List.map_congr_left
  intro c hc
  obtain ⟨hc, hsmall⟩ := htext c hc
  rw [Function.comp_apply, (changeCase_ascii hc).2.2, hsmall, id]

end EnumCodegen.Text
