import EnumCodegen.Proofs.Text.Lines

/-!
# Inner lines

A text is cut into lines at its line feeds; a carriage return before a line feed is white space at
the end of a line. The inner lines are those from the first to the last that holds more than white
space. The other lines hold nothing else, so the inner lines hold all that is solid in the text.

## Main definitions

* `Text.isWhite`, `Text.solid`: text of white space alone, and what is left of text without it
* `Text.innerLines`: the lines from the first to the last that is not white
* `Text.innerBreaks`: the number of line breaks between these two

## Main results

* `Text.solid_splitOn`, `Text.solid_trimmed`, `Text.solid_innerLines`: cutting, trimming and leaving
  out white lines keep what is solid
* `Text.innerLines_eq_nil_iff`: only text of white space has no inner lines
* `Text.length_innerLines`: there is one inner line more than there are inner breaks
-/

namespace EnumCodegen.Text

variable {text : Text}

/-! ## White space and the rest -/

/-- Whether text is **white**: white space alone. -/
def isWhite (text : Text) : Bool :=
  text.all CharClass.isWhiteSpace

/-- **What is solid** in a text: its characters without the white space. -/
def solid (text : Text) : Text :=
  text.filter (!CharClass.isWhiteSpace ·)

theorem isWhite_iff : isWhite text = true ↔ ∀ c ∈ text, CharClass.isWhiteSpace c = true :=
  List.all_eq_true

theorem isWhite_eq_isEmpty_trimmed (text : Text) :
    isWhite text = (trimmed CharClass.isWhiteSpace text).isEmpty := by
  rw [Bool.eq_iff_iff, List.isEmpty_iff, trimmed_eq_nil_iff, isWhite_iff]

theorem solid_eq_nil_iff : solid text = [] ↔ isWhite text = true := by
  simp [solid, isWhite]

theorem solid_append (front back : Text) : solid (front ++ back) = solid front ++ solid back :=
  List.filter_append _ _

/-- Trimming keeps what is solid. -/
theorem solid_trimmed (text : Text) :
    solid (trimmed CharClass.isWhiteSpace text) = solid text := by
  obtain ⟨before, after, htext, hbefore, hafter⟩ :=
    exists_append_innerItems CharClass.isWhiteSpace text
  have hbefore' : solid before = [] := solid_eq_nil_iff.mpr (isWhite_iff.mpr hbefore)
  have hafter' : solid after = [] := solid_eq_nil_iff.mpr (isWhite_iff.mpr hafter)
  conv_rhs => rw [htext]
  rw [solid_append, solid_append, hbefore', hafter', List.nil_append, List.append_nil, trimmed_eq]

theorem isWhite_trimmed (text : Text) :
    isWhite (trimmed CharClass.isWhiteSpace text) = isWhite text := by
  rw [Bool.eq_iff_iff, ← solid_eq_nil_iff, solid_trimmed, solid_eq_nil_iff]

/-- Cutting at line feeds keeps what is solid, for a line feed is white space. -/
theorem solid_splitOn (text : Text) : (text.splitOn '\n').flatMap solid = solid text := by
  have hflat : (text.splitOn '\n').flatten = text.filter (fun c => !(c == '\n')) :=
    flatten_splitOnP _ text
  have hfeed : ∀ c ∈ text,
      (!CharClass.isWhiteSpace c && !(c == '\n')) = !CharClass.isWhiteSpace c := by
    intro c _
    by_cases hc : c = '\n'
    · rw [hc]
      decide
    · simp [hc]
  calc
    (text.splitOn '\n').flatMap solid
    _ = solid (text.splitOn '\n').flatten := List.filter_flatten.symm
    _ = text.filter (!CharClass.isWhiteSpace ·) := by
      rw [hflat, solid, List.filter_filter, List.filter_congr hfeed]
    _ = solid text := rfl

/-! ## Lines -/

/-- **The inner lines** of a text: those from the first to the last that is not white. -/
def innerLines (text : Text) : List Text :=
  innerItems isWhite (text.splitOn '\n')

/-- **The inner breaks** of a text: the line breaks from the first to the last line that is not
white. -/
def innerBreaks (text : Text) : Nat :=
  let positions := (text.splitOn '\n').findIdxs (!isWhite ·)
  positions.getLastD 0 - positions.headD 0

/-- **The inner lines hold all that is solid.** -/
theorem solid_innerLines (text : Text) : (innerLines text).flatMap solid = solid text := by
  obtain ⟨before, after, hsplit, hbefore, hafter⟩ :=
    exists_append_innerItems isWhite (text.splitOn '\n')
  have hnothing : ∀ lines : List Text, (∀ line ∈ lines, isWhite line = true) →
      lines.flatMap solid = [] := by
    intro lines hwhite
    rw [List.flatMap_eq_nil_iff]
    intro line hline
    exact solid_eq_nil_iff.mpr (hwhite line hline)
  rw [← solid_splitOn, hsplit, List.flatMap_append, List.flatMap_append, hnothing before hbefore,
    hnothing after hafter, List.nil_append, List.append_nil, innerLines]

/-- **Only white text has no inner lines.** -/
theorem innerLines_eq_nil_iff : innerLines text = [] ↔ isWhite text = true := by
  rw [innerLines, innerItems_eq_nil_iff, ← solid_eq_nil_iff, ← solid_splitOn,
    List.flatMap_eq_nil_iff]
  simp only [solid_eq_nil_iff]

/-- **One inner line more** than there are inner breaks. -/
theorem length_innerLines (h : isWhite text = false) :
    (innerLines text).length = innerBreaks text + 1 := by
  apply length_innerItems
  intro hnil
  rw [innerLines_eq_nil_iff.mp hnil] at h
  cases h

end EnumCodegen.Text
