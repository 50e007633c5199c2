import EnumCodegen.Proofs.Text.Casing

/-!
# No white space in names in a case style

White space is neither a letter nor a number, and no letter or number has white space as its upper
case. So a name in upper snake case holds none, and trimming leaves it alone.

## Main definitions

* `CharClass.whiteSpaces`: the code points of white space

## Main results

* `CharClass.toNat_mem_whiteSpaces`: white space is listed
* `Text.isWhiteSpace_of_mem_upperSnake`: a name in upper snake case holds no white space
-/

namespace EnumCodegen

namespace CharClass

/-- **The code points of white space.** -/
def whiteSpaces : List Nat :=
  [9, 10, 11, 12, 13, 32, 0x85, 0xa0, 0x1680, 0x2000, 0x2001, 0x2002, 0x2003, 0x2004, 0x2005, 0x2006,
   0x2007, 0x2008, 0x2009, 0x200a, 0x2028, 0x2029, 0x202f, 0x205f, 0x3000]

/-- What lies inside increasing bounds lies between the first two, or inside the others. -/
theorem between_or_inside {first second n : Nat} {bounds : List Nat}
    (h : inside (first :: second :: bounds) n = true) :
    first ≤ n ∧ n < second ∨ inside bounds n = true := by
  simp only [inside] at h
  split at h
  · cases h
  · split at h
    · left
      omega
    · right
      simpa using h

/-- **White space is listed.** -/
theorem toNat_mem_whiteSpaces {c : Char} (hc : isWhiteSpace c = true) : c.toNat ∈ whiteSpaces := by
  unfold isWhiteSpace at hc
  split at hc
  · rcases Bool.or_eq_true_iff.mp hc with hspace | hcontrol
    · rw [beq_iff_eq.mp hspace]
      decide
    · have hrange : 9 ≤ c.toNat ∧ c.toNat ≤ 13 := by simpa using hcontrol
      simp only [whiteSpaces, List.mem_cons]
      omega
  · simp only [whiteSpaces, List.mem_cons]
    unfold whiteSpaceBounds at hc
    -- each pair of change points is a range of white space
    iterate 8
      rcases between_or_inside hc with hrange | hc
      · omega
    cases hc

/-- Letters and numbers are no white space. -/
theorem isWhiteSpace_of_isAlphanumeric {c : Char} (hc : isAlphanumeric c = true) :
    isWhiteSpace c = false := by
  have hlisted : ∀ n ∈ whiteSpaces, isAlphanumeric (Char.ofNat n) = false := by decide +kernel
  by_contra hblank
  have hmem := toNat_mem_whiteSpaces (eq_true_of_ne_false hblank)
  have hletter := hlisted c.toNat hmem
  rw [Char.ofNat_toNat, hc] at hletter
  cases hletter

/-- A code point that is not listed is no white space, even where it is no character. -/
theorem isWhiteSpace_ofNat {n : Nat} (hn : n ∉ whiteSpaces) : isWhiteSpace (Char.ofNat n) = false := by
  by_contra hblank
  have hmem := toNat_mem_whiteSpaces (eq_true_of_ne_false hblank)
  by_cases hvalid : n.isValidChar
  · rw [Char.ofNat, dif_pos hvalid] at hmem
    exact hn hmem
  · rw [Char.ofNat, dif_neg hvalid] at hmem
    revert hmem
    decide

/-- Whether a run leads to no white space. -/
def CaseRun.avoidsWhiteSpace (run : CaseRun) : Bool :=
  whiteSpaces.all fun n => n < run.target || run.target + (run.last - run.first) < n

theorem CaseRun.isWhiteSpace_image {run : CaseRun} (hrun : run.avoidsWhiteSpace = true)
    {n image : Nat} (h : run.image? n = some image) : isWhiteSpace (Char.ofNat image) = false := by
  unfold CaseRun.image? at h
  split at h
  · next hcovers =>
    obtain rfl := Option.some.inj h
    apply isWhiteSpace_ofNat
    intro hmem
    have houtside := List.all_eq_true.mp hrun _ hmem
    simp only [Bool.or_eq_true, decide_eq_true_eq] at houtside
    omega
  · simp at h

/-- **The upper case of a letter or number** is no white space. -/
theorem isWhiteSpace_of_mem_uppercased {c d : Char} (hc : isAlphanumeric c = true)
    (hd : d ∈ uppercased c) : isWhiteSpace d = false := by
  have hexpansions : ∀ entry ∈ upperExpansions, ∀ n ∈ entry.2, n ∉ whiteSpaces := by decide +kernel
  have hruns : ∀ run ∈ upperRuns, run.avoidsWhiteSpace = true := by decide +kernel
  by_cases hascii : isAscii c = true
  · rw [uppercased_ascii hascii, List.mem_singleton] at hd
    have hupper := (isAlphanum_cases hascii (isNameChar_of_isAlphanumeric hc)).1
    rw [hd]
    apply isWhiteSpace_of_isAlphanumeric
    rw [isAlphanumeric_ascii (isAscii_of_isAlphanum hupper)]
    exact hupper
  rw [uppercased, if_neg hascii, mapped] at hd
  split at hd
  · next images hlookup =>
    obtain ⟨n, hn, rfl⟩ := List.mem_map.mp hd
    obtain ⟨before, after, heq, -⟩ := List.lookup_eq_some_iff.mp hlookup
    exact isWhiteSpace_ofNat (hexpansions (c.toNat, images) (by simp [heq]) n hn)
  · split at hd
    · next image hrun =>
      rw [List.mem_singleton.mp hd]
      obtain ⟨run, hmem, himage⟩ := List.exists_of_findSome?_eq_some hrun
      exact run.isWhiteSpace_image (hruns run hmem) himage
    · rw [List.mem_singleton.mp hd]
      exact isWhiteSpace_of_isAlphanumeric hc

end CharClass

/-- **A name in upper snake case holds no white space.** -/
theorem Text.isWhiteSpace_of_mem_upperSnake {name : Text} {c : Char} (hc : c ∈ upperSnake name) :
    CharClass.isWhiteSpace c = false := by
  rcases mem_upperSnake hc with rfl | hc
  · decide
  · obtain ⟨d, hd, hc⟩ := List.mem_flatMap.mp hc
    exact CharClass.isWhiteSpace_of_mem_uppercased (List.mem_filter.mp hd).2 hc

end EnumCodegen
