import EnumCodegen.Proofs.Text.InnerLines
import EnumCodegen.Schema.Comments

/-!
# Comments in normal form

A comment in normal form is made of lines without white space around them, of which the first and
the last are not empty. Cleaning trims the inner lines of a comment and joins them. A trimmed line
holds no line feed, and ends in no carriage return that the next line feed could swallow: so the
lines come back from the joined text, and cleaning it again does nothing.

## Main definitions

* `NormalLines`: the lines of a comment in normal form

## Main results

* `cleanComment?_eq`: cleaning trims the inner lines
* `splitOn_of_cleanComment?`: the trimmed lines come back from the cleaned comment
* `exists_normalLines`: a comment in normal form is made of normal lines
* `cleanComment?_eq_self_iff`: what cleaning leaves alone
* `cleanComment?_normalForm`: cleaning brings a comment into normal form and keeps what is solid in
  it, with the line breaks between
-/

namespace EnumCodegen

open Text

variable {raw comment : Text}

/-- **The lines of a comment in normal form.** -/
structure NormalLines (lines : List Text) : Prop where
  lineFeed_notMem : ∀ line ∈ lines, '\n' ∉ line
  trimmed : ∀ line ∈ lines, Text.trimmed CharClass.isWhiteSpace line = line
  ne_nil : lines ≠ []
  head_ne_nil : lines.head ne_nil ≠ []
  getLast_ne_nil : lines.getLast ne_nil ≠ []

/-! ## Cleaning -/

/-- Trimmed lines and trimmed pieces between line feeds differ in an empty piece at the end only,
for the carriage return that a line lacks is trimmed off the piece. -/
theorem innerItems_lines (raw : Text) :
    innerItems List.isEmpty ((Text.lines raw).map (trimmed CharClass.isWhiteSpace)) =
      (innerLines raw).map (trimmed CharClass.isWhiteSpace) := by
  obtain ⟨front, final, hsplit⟩ := exists_splitOn_concat '\n' raw
  have hfront : (front.map withoutReturn).map (trimmed CharClass.isWhiteSpace) =
      front.map (trimmed CharClass.isWhiteSpace) := by
    rw [List.map_map]
    exact List.map_congr_left fun line _ => trimmed_withoutReturn (by decide) line
  have hwhite : List.isEmpty ∘ trimmed CharClass.isWhiteSpace = isWhite :=
    funext fun line => (isWhite_eq_isEmpty_trimmed line).symm
  calc
    innerItems List.isEmpty ((Text.lines raw).map (trimmed CharClass.isWhiteSpace))
    _ = innerItems List.isEmpty ((raw.splitOn '\n').map (trimmed CharClass.isWhiteSpace)) := by
      rw [lines_of_splitOn hsplit, hsplit, List.map_append, List.map_append, hfront]
      split
      · next hfinal =>
        -- an empty piece at the end is no line, and would be dropped
        rw [hfinal, List.map_nil, List.append_nil]
        exact (innerItems_concat rfl _).symm
      · rfl
    _ = (innerLines raw).map (trimmed CharClass.isWhiteSpace) := by
      rw [innerItems_map, hwhite, innerLines]

/-- **Cleaning trims the inner lines** of a comment and joins them. -/
theorem cleanComment?_eq (raw : Text) :
    cleanComment? raw =
      if isWhite raw then none
      else some (['\n'].intercalate ((innerLines raw).map (trimmed CharClass.isWhiteSpace))) := by
  have hempty : ((innerLines raw).map (trimmed CharClass.isWhiteSpace)).isEmpty = isWhite raw := by
    rw [Bool.eq_iff_iff, List.isEmpty_iff, List.map_eq_nil_iff, innerLines_eq_nil_iff]
  rw [← hempty, ← innerItems_lines]
  rfl

theorem cleanComment?_eq_none_iff : cleanComment? raw = none ↔ isWhite raw = true := by
  rw [cleanComment?_eq]
  split
  · next hwhite => simp [hwhite]
  · next hwhite => simp [hwhite]

theorem isWhite_of_cleanComment? (h : cleanComment? raw = some comment) : isWhite raw = false := by
  by_contra hwhite
  rw [cleanComment?_eq_none_iff.mpr (eq_true_of_ne_false hwhite)] at h
  cases h

/-! ## The lines of a cleaned comment -/

/-- **The trimmed lines come back** from a cleaned comment. -/
theorem splitOn_of_cleanComment? (h : cleanComment? raw = some comment) :
    comment.splitOn '\n' = (innerLines raw).map (trimmed CharClass.isWhiteSpace) := by
  have hwhite := isWhite_of_cleanComment? h
  have hfeed : ∀ line ∈ (innerLines raw).map (trimmed CharClass.isWhiteSpace), '\n' ∉ line := by
    intro line hline hmem
    obtain ⟨whole, hwhole, rfl⟩ := List.mem_map.mp hline
    -- a trimmed line holds characters of its piece only, and the piece was cut at line feeds
    exact notMem_of_mem_splitOn (mem_of_mem_innerItems hwhole) (mem_of_mem_innerItems hmem)
  have hne : (innerLines raw).map (trimmed CharClass.isWhiteSpace) ≠ [] := by
    rw [Ne, List.map_eq_nil_iff, innerLines_eq_nil_iff, hwhite]
    exact Bool.false_ne_true
  rw [cleanComment?_eq, hwhite, if_neg Bool.false_ne_true] at h
  rw [← Option.some.inj h, List.splitOn_intercalate '\n' hfeed hne]

theorem trimmed_of_cleanComment? (h : cleanComment? raw = some comment) :
    ∀ line ∈ comment.splitOn '\n', trimmed CharClass.isWhiteSpace line = line := by
  intro line hline
  rw [splitOn_of_cleanComment? h] at hline
  obtain ⟨whole, -, rfl⟩ := List.mem_map.mp hline
  exact trimmed_trimmed _ _

/-- All lines of a cleaned comment are inner lines: trimming leaves those at the ends with something
solid in them. -/
theorem innerLines_of_cleanComment? (h : cleanComment? raw = some comment) :
    innerLines comment = comment.splitOn '\n' := by
  have hwhite : isWhite ∘ trimmed CharClass.isWhiteSpace = isWhite := funext isWhite_trimmed
  calc
    innerLines comment
    _ = innerItems isWhite ((innerLines raw).map (trimmed CharClass.isWhiteSpace)) := by
      rw [innerLines, splitOn_of_cleanComment? h]
    _ = (innerItems isWhite (innerLines raw)).map (trimmed CharClass.isWhiteSpace) := by
      -- trimming makes no line white that was not
      rw [innerItems_map, hwhite]
    _ = (innerLines raw).map (trimmed CharClass.isWhiteSpace) := by
      rw [innerLines, innerItems_innerItems]
    _ = comment.splitOn '\n' := (splitOn_of_cleanComment? h).symm

/-- **A comment in normal form** is made of lines without white space around them. -/
theorem exists_normalLines (h : cleanComment? raw = some comment) :
    ∃ lines, NormalLines lines ∧ comment = ['\n'].intercalate lines := by
  obtain ⟨hfirst, hlast⟩ := innerItems_eq_self_iff.mp (innerLines_of_cleanComment? h)
  have hne : comment.splitOn '\n' ≠ [] := List.splitOn_ne_nil _ _
  refine ⟨comment.splitOn '\n', ⟨?_, trimmed_of_cleanComment? h, hne, ?_, ?_⟩,
    (List.intercalate_splitOn '\n').symm⟩
  · intro line hline
    exact notMem_of_mem_splitOn hline
  · intro hempty
    have hhead := hfirst _ (List.head?_eq_some_head hne)
    rw [hempty] at hhead
    cases hhead
  · intro hempty
    have hend := hlast _ (List.getLast?_eq_some_getLast hne)
    rw [hempty] at hend
    cases hend

/-! ## Cleaning again -/

/-- **What cleaning leaves alone**: trimmed lines, something solid in the first and the last. -/
theorem cleanComment?_eq_self_iff :
    cleanComment? comment = some comment ↔
      innerLines comment = comment.splitOn '\n' ∧
        ∀ line ∈ comment.splitOn '\n', trimmed CharClass.isWhiteSpace line = line := by
  constructor
  · intro h
    exact ⟨innerLines_of_cleanComment? h, trimmed_of_cleanComment? h⟩
  · rintro ⟨hinner, htrimmed⟩
    have hwhite : ¬isWhite comment = true := by
      rw [← innerLines_eq_nil_iff, hinner]
      exact List.splitOn_ne_nil _ _
    rw [cleanComment?_eq, if_neg hwhite, hinner, List.map_congr_left htrimmed, List.map_id',
      List.intercalate_splitOn]

/-! ## What stays -/

/-- Cleaning keeps what is solid. -/
theorem solid_of_cleanComment? (h : cleanComment? raw = some comment) :
    solid comment = solid raw := by
  calc
    solid comment
    _ = ((innerLines raw).map (trimmed CharClass.isWhiteSpace)).flatMap solid := by
      rw [← solid_splitOn, splitOn_of_cleanComment? h]
    _ = (innerLines raw).flatMap solid := by
      rw [List.flatMap_map]
      simp only [solid_trimmed]
    _ = solid raw := solid_innerLines raw

/-- All line breaks of a cleaned comment are the inner line breaks of the comment. -/
theorem count_lineFeed_of_cleanComment? (h : cleanComment? raw = some comment) :
    comment.count '\n' = innerBreaks raw := by
  have hpieces := length_splitOn '\n' comment
  have hlines := length_innerLines (isWhite_of_cleanComment? h)
  rw [splitOn_of_cleanComment? h, List.length_map, hlines] at hpieces
  omega

/-! ## The normal form -/

/-- **Cleaning brings a comment into normal form.** Only a comment of white space has none. In the
other cases no line begins or ends with white space, and neither the first nor the last is blank;
what is solid in the comment stays, in its order, and so do the line breaks between its first and
its last line that is not blank; and cleaning again does nothing. -/
theorem cleanComment?_normalForm (raw : Text) :
    (cleanComment? raw = none ↔ ∀ c ∈ raw, CharClass.isWhiteSpace c = true) ∧
      ∀ comment, cleanComment? raw = some comment →
        (∀ line ∈ comment.splitOn '\n',
          (∀ c ∈ line.head?, CharClass.isWhiteSpace c = false) ∧
            ∀ c ∈ line.getLast?, CharClass.isWhiteSpace c = false) ∧
        (∀ line ∈ (comment.splitOn '\n').head?, isWhite line = false) ∧
        (∀ line ∈ (comment.splitOn '\n').getLast?, isWhite line = false) ∧
        solid comment = solid raw ∧
        innerBreaks comment = innerBreaks raw ∧ comment.count '\n' = innerBreaks raw ∧
        cleanComment? comment = some comment := by
  refine ⟨cleanComment?_eq_none_iff.trans isWhite_iff, ?_⟩
  intro comment h
  have hinner := innerLines_of_cleanComment? h
  have htrimmed := trimmed_of_cleanComment? h
  have hcount := count_lineFeed_of_cleanComment? h
  have hagain := cleanComment?_eq_self_iff.mpr ⟨hinner, htrimmed⟩
  obtain ⟨hfirst, hlast⟩ := innerItems_eq_self_iff.mp hinner
  refine ⟨?_, hfirst, hlast, solid_of_cleanComment? h, ?_, hcount, hagain⟩
  · intro line hline
    exact trimmed_eq_self_iff.mp (htrimmed line hline)
  · -- the cleaned comment is cleaned from itself: the count is that of its own inner breaks
    rw [← hcount, count_lineFeed_of_cleanComment? hagain]

/-- Carriage returns, blank lines and other white space around the lines go; a carriage return within
a line and a blank line between two others stay. -/
theorem cleanComment?_normalForm_returns :
    cleanComment? "\r\n \t Dark red,\r\n \u2003\r\n\tnot\rpink \r\n\n" =
        some "Dark red,\n\nnot\rpink" ∧
      "Dark red,\n\nnot\rpink".toList.count '\n' = 2 ∧
      cleanComment? "Dark red,\n\nnot\rpink" = some "Dark red,\n\nnot\rpink" := by
  have hclean : cleanComment? "\r\n \t Dark red,\r\n \u2003\r\n\tnot\rpink \r\n\n" =
      some "Dark red,\n\nnot\rpink" := by decide
  have hbreaks : innerBreaks "\r\n \t Dark red,\r\n \u2003\r\n\tnot\rpink \r\n\n" = 2 := by decide
  obtain ⟨-, -, -, -, -, hcount, hagain⟩ := (cleanComment?_normalForm _).2 _ hclean
  exact ⟨hclean, hcount.trans hbreaks, hagain⟩

end EnumCodegen
