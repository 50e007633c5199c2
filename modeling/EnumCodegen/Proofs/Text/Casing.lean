import EnumCodegen.Proofs.Text.Joined
import EnumCodegen.Text.Casing

/-!
# The characters of names in a case style

Words consist of letters and numbers, and the case mappings lead from these to ASCII letters and
digits or out of ASCII altogether. So an ASCII character of a name in a case style that is neither a
letter nor a digit is an underscore that joins two words.

## Main definitions

* `CharClass.isNameChar`: ASCII letters and digits, and everything beyond ASCII

## Main results

* `CharClass.of_isAscii`: facts about ASCII characters
* `CharClass.isNameChar_uppercased`, `CharClass.isNameChar_lowercased`: a change of case stays in
  the class
* `flatten_words`: the words of a name are its letters and numbers
* `mem_snake`, `mem_upperSnake`, `mem_upperCamel`: the characters of a name in a case style
-/

namespace EnumCodegen

namespace CharClass

/-- **Name characters**: ASCII letters and digits, and everything beyond ASCII. -/
def isNameChar (c : Char) : Bool :=
  !isAscii c || c.isAlphanum

theorem isNameChar_of_isAlphanumeric {c : Char} (h : isAlphanumeric c = true) :
    isNameChar c = true := by
  unfold isNameChar
  by_cases hascii : isAscii c = true
  · rw [isAlphanumeric_ascii hascii] at h
    simp [h]
  · simp [hascii]

/-- What comes before an ASCII character is ASCII. -/
theorem isAscii_of_le {c last : Char} (hle : c.val ≤ last.val) (hlast : isAscii last = true) :
    isAscii c = true := by
  have hlt : last.toNat < 128 := of_decide_eq_true hlast
  exact decide_eq_true (Nat.lt_of_le_of_lt (UInt32.le_iff_toNat_le.mp hle) hlt)

/-- **A fact about ASCII characters** is checked on each of them. -/
theorem of_isAscii {P : Char → Prop} (h : ∀ n < 128, P (Char.ofNat n)) {c : Char}
    (hc : isAscii c = true) : P c := by
  have hlt : c.toNat < 128 := of_decide_eq_true hc
  rw [← Char.ofNat_toNat c]
  exact h c.toNat hlt

theorem isAscii_of_isAlphanum {c : Char} (h : c.isAlphanum = true) : isAscii c = true := by
  rcases Bool.or_eq_true_iff.mp h with halpha | hdigit
  · rcases Bool.or_eq_true_iff.mp halpha with hupper | hlower
    · have hle : c.val ≤ 'Z'.val := (of_decide_eq_true hupper).2
      exact isAscii_of_le hle (by decide)
    · have hle : c.val ≤ 'z'.val := of_decide_eq_true (Bool.and_eq_true_iff.mp hlower).2
      exact isAscii_of_le hle (by decide)
  · have hle : c.val ≤ '9'.val := of_decide_eq_true (Bool.and_eq_true_iff.mp hdigit).2
    exact isAscii_of_le hle (by decide)

/-- Within ASCII a change of case undoes the one before it. -/
theorem changeCase_ascii {c : Char} (hc : isAscii c = true) :
    c.toLower.toUpper = c.toUpper ∧ c.toLower.toLower = c.toLower ∧
      c.toUpper.toLower = c.toLower := by
  apply of_isAscii _ hc
  decide +kernel

/-- A change of case leads from letters to letters, and from nothing else to one. -/
theorem isAlpha_changeCase {c : Char} (hc : isAscii c = true) :
    c.toLower.isAlpha = c.isAlpha ∧ c.toUpper.isAlpha = c.isAlpha := by
  apply of_isAscii _ hc
  decide +kernel

/-! ## Case mappings -/

/-- Whether a run leads to name characters: it stays beyond ASCII and off the surrogates, or covers
one code point and sends it to a letter. -/
def CaseRun.staysInNames (run : CaseRun) : Bool :=
  (128 ≤ run.target ∧
    (run.target + (run.last - run.first) < 0xd800 ∨
      0xe000 ≤ run.target ∧ run.target + (run.last - run.first) < 0x110000)) ∨
  (run.first = run.last ∧ isNameChar (Char.ofNat run.target))

theorem isNameChar_ofNat {n : Nat} (hvalid : n.isValidChar) (hn : 128 ≤ n) :
    isNameChar (Char.ofNat n) = true := by
  have htoNat : (Char.ofNat n).toNat = n := by
    rw [Char.ofNat, dif_pos hvalid]
    rfl
  rw [isNameChar, isAscii, htoNat, decide_eq_false (by omega)]
  rfl

/-- What a run sends somewhere it sends to a name character. -/
theorem CaseRun.isNameChar_image {run : CaseRun} (hrun : run.staysInNames = true) {n image : Nat}
    (h : run.image? n = some image) : isNameChar (Char.ofNat image) = true := by
  unfold CaseRun.image? at h
  split at h
  · next hcovers =>
    obtain rfl := Option.some.inj h
    simp only [staysInNames, Bool.decide_or, Bool.decide_and, Bool.or_eq_true, Bool.and_eq_true,
      decide_eq_true_eq] at hrun
    rcases hrun with ⟨hbeyond, hrange⟩ | ⟨hsingle, hletter⟩
    · -- the whole image lies beyond ASCII and off the surrogates
      apply isNameChar_ofNat ?_ (by omega)
      simp only [Nat.isValidChar]
      omega
    · have hn : n - run.first = 0 := by omega
      rwa [hn]
  · simp at h

theorem isNameChar_mapped {expansions : List (Nat × List Nat)} {runs : List CaseRun}
    (hexpansions : ∀ entry ∈ expansions, ∀ n ∈ entry.2, isNameChar (Char.ofNat n) = true)
    (hruns : ∀ run ∈ runs, run.staysInNames = true) {c d : Char} (hc : isNameChar c = true)
    (hd : d ∈ mapped expansions runs c) : isNameChar d = true := by
  unfold mapped at hd
  split at hd
  · next images hlookup =>
    -- an expansion takes precedence over the runs
    obtain ⟨n, hn, rfl⟩ := List.mem_map.mp hd
    obtain ⟨before, after, rfl, -⟩ := List.lookup_eq_some_iff.mp hlookup
    exact hexpansions (c.toNat, images) (by simp) n hn
  · split at hd
    · next image hrun =>
      obtain rfl := List.mem_singleton.mp hd
      obtain ⟨run, hmem, himage⟩ := List.exists_of_findSome?_eq_some hrun
      exact run.isNameChar_image (hruns run hmem) himage
    · rwa [List.mem_singleton.mp hd]

/-- ASCII letters and digits stay such in either case. -/
theorem isAlphanum_cases {c : Char} (hascii : isAscii c = true) (hc : isNameChar c = true) :
    c.toUpper.isAlphanum = true ∧ c.toLower.isAlphanum = true := by
  have halpha : c.isAlphanum = true := by simpa [isNameChar, hascii] using hc
  revert halpha
  apply of_isAscii _ hascii
  decide +kernel

/-- **The upper case of a name character** consists of name characters. -/
theorem isNameChar_uppercased {c d : Char} (hc : isNameChar c = true) (hd : d ∈ uppercased c) :
    isNameChar d = true := by
  by_cases hascii : isAscii c = true
  · rw [uppercased_ascii hascii, List.mem_singleton] at hd
    rw [hd, isNameChar, (isAlphanum_cases hascii hc).1, Bool.or_true]
  · rw [uppercased, if_neg hascii] at hd
    exact isNameChar_mapped (by decide +kernel) (by decide +kernel) hc hd

/-- **The lower case of a name character** consists of name characters. -/
theorem isNameChar_lowercased {c d : Char} (hc : isNameChar c = true) (hd : d ∈ lowercased c) :
    isNameChar d = true := by
  by_cases hascii : isAscii c = true
  · rw [lowercased_ascii hascii, List.mem_singleton] at hd
    rw [hd, isNameChar, (isAlphanum_cases hascii hc).2, Bool.or_true]
  · rw [lowercased, if_neg hascii] at hd
    exact isNameChar_mapped (by decide +kernel) (by decide +kernel) hc hd

end CharClass

namespace Text

open CharClass

/-! ## Words -/

/-- **The words of a name** are its letters and numbers, in order. -/
theorem flatten_words (name : Text) : (words name).flatten = name.filter isAlphanumeric := by
  rw [words, ← List.flatMap_id, List.flatMap_assoc]
  simp only [List.flatMap_id, flatten_splitAtCase, List.flatMap_id', flatten_splitOnP,
    Bool.not_not]

/-- Words consist of letters and numbers of the name. -/
theorem mem_of_mem_words {name word : Text} (hword : word ∈ words name) {c : Char}
    (hc : c ∈ word) : c ∈ name ∧ isAlphanumeric c = true := by
  have hmem : c ∈ (words name).flatten := List.mem_flatten.mpr ⟨word, hword, hc⟩
  rw [flatten_words] at hmem
  exact List.mem_filter.mp hmem

theorem isNameChar_of_mem_words {name word : Text} (hword : word ∈ words name) {c : Char}
    (hc : c ∈ word) : isNameChar c = true :=
  isNameChar_of_isAlphanumeric (mem_of_mem_words hword hc).2

/-! ## Case styles -/

theorem isNameChar_lowercase {word : Text} (hword : ∀ c ∈ word, isNameChar c = true) {d : Char}
    (hd : d ∈ lowercase word) : isNameChar d = true := by
  fun_induction lowercase word with
  | case1 => simp at hd
  | case2 =>
    rw [List.mem_singleton.mp hd]
    decide
  | case3 c => exact isNameChar_lowercased (hword c (by simp)) hd
  | case4 c rest _ ih =>
    rcases List.mem_append.mp hd with hd | hd
    · exact isNameChar_lowercased (hword c (by simp)) hd
    · apply ih _ hd
      intro c' hc'
      exact hword c' (List.mem_cons_of_mem _ hc')

theorem isNameChar_capitalize {word : Text} (hword : ∀ c ∈ word, isNameChar c = true) {d : Char}
    (hd : d ∈ capitalize word) : isNameChar d = true := by
  cases word with
  | nil => simp [capitalize] at hd
  | cons c rest =>
    rcases List.mem_append.mp hd with hd | hd
    · exact isNameChar_uppercased (hword c (by simp)) hd
    · apply isNameChar_lowercase _ hd
      intro c' hc'
      exact hword c' (List.mem_cons_of_mem _ hc')

/-- **The characters of a `snake` name**: name characters and underscores. -/
theorem mem_snake {name : Text} {c : Char} (hc : c ∈ snake name) :
    isNameChar c = true ∨ c = '_' := by
  rcases mem_intercalate hc with hc | ⟨part, hpart, hc⟩
  · exact .inr (List.mem_singleton.mp hc)
  · obtain ⟨word, hword, rfl⟩ := List.mem_map.mp hpart
    exact .inl (isNameChar_lowercase (fun _ => isNameChar_of_mem_words hword) hc)

/-- The words of a name in upper case are its letters and numbers in upper case. -/
theorem flatten_map_uppercase_words (name : Text) :
    ((words name).map uppercase).flatten = uppercase (name.filter isAlphanumeric) := by
  rw [← flatten_words, ← List.flatMap_def, uppercase, ← List.flatMap_id, List.flatMap_assoc]
  rfl

/-- **The characters of the `UPPER_SNAKE` form**: the letters and numbers of the name in upper case,
and underscores. -/
theorem mem_upperSnake {name : Text} {c : Char} (hc : c ∈ upperSnake name) :
    c = '_' ∨ c ∈ uppercase (name.filter isAlphanumeric) := by
  rw [← flatten_map_uppercase_words]
  exact (mem_intercalate hc).imp List.mem_singleton.mp List.mem_flatten.mpr

theorem mem_upperSnake_of_mem {name : Text} {c : Char}
    (hc : c ∈ uppercase (name.filter isAlphanumeric)) : c ∈ upperSnake name := by
  rw [← flatten_map_uppercase_words] at hc
  obtain ⟨part, hpart, hc⟩ := List.mem_flatten.mp hc
  exact mem_intercalate_of_mem hpart hc

/-- For an ASCII name these are ASCII letters, digits and underscores. -/
theorem mem_upperSnake_ascii {name : Text} (hname : ∀ c ∈ name, isAscii c = true) {c : Char}
    (hc : c ∈ upperSnake name) : c.isAlphanum = true ∨ c = '_' := by
  rcases mem_upperSnake hc with rfl | hc
  · exact .inr rfl
  · obtain ⟨d, hd, hc⟩ := List.mem_flatMap.mp hc
    obtain ⟨hmem, halpha⟩ := List.mem_filter.mp hd
    rw [uppercased_ascii (hname d hmem), List.mem_singleton] at hc
    rw [hc]
    exact .inl (isAlphanum_cases (hname d hmem) (isNameChar_of_isAlphanumeric halpha)).1

/-- **The characters of an `UpperCamel` name**: name characters. -/
theorem mem_upperCamel {name : Text} {c : Char} (hc : c ∈ upperCamel name) :
    isNameChar c = true := by
  obtain ⟨word, hword, hc⟩ := List.mem_flatMap.mp hc
  exact isNameChar_capitalize (fun _ => isNameChar_of_mem_words hword) hc

end Text

end EnumCodegen
