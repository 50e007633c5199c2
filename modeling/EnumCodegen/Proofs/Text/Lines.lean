import EnumCodegen.Proofs.Inner
import EnumCodegen.Proofs.Text.Casing

/-!
# Lines and trimming

Lines that hold no line feed and no carriage return come back from the text they are joined to, if
the last is not empty. A trimmed text is made of the inner items of the text: it begins and ends
outside the class, and trimming it again does nothing.

## Main results

* `Text.lines_intercalate`: joined lines come back
* `Text.trimmed_trimmed`: trimming twice is trimming once
* `Text.trimmed_eq_nil_iff`, `Text.trimmed_eq_self_iff`: what trimming leaves nothing of, and what it
  leaves alone
* `Text.trimmed_withoutReturn`: the carriage return that a line lacks would be trimmed
-/

namespace EnumCodegen.Text

variable {drop : Char → Bool} {text : Text}

/-! ## Lines -/

theorem withoutReturn_eq_self {line : Text} (h : '\r' ∉ line) : withoutReturn line = line := by
  unfold withoutReturn
  rw [if_neg fun hlast => h (List.mem_of_getLast? hlast)]

/-- The lines of a text whose last piece is known. -/
theorem lines_of_splitOn {front : List Text} {final : Text}
    (h : text.splitOn '\n' = front ++ [final]) :
    lines text = front.map withoutReturn ++ (if final = [] then [] else [final]) := by
  unfold lines
  simp only [h, List.dropLast_concat, List.getLastD_concat, List.isEmpty_iff]

/-- A text that is not empty has a line. -/
theorem lines_ne_nil (h : text ≠ []) : lines text ≠ [] := by
  obtain ⟨front, final, hsplit⟩ := exists_splitOn_concat '\n' text
  rw [lines_of_splitOn hsplit]
  intro hlines
  obtain ⟨hfront, hfinal⟩ := List.append_eq_nil_iff.mp hlines
  have hempty : final = [] := by simpa using hfinal
  -- a text with one empty piece is empty
  rw [List.map_eq_nil_iff.mp hfront, hempty] at hsplit
  have htext := congrArg ['\n'].intercalate hsplit
  rw [List.intercalate_splitOn] at htext
  exact h htext

/-- **Joined lines come back**, if the last is not empty. -/
theorem lines_intercalate {parts : List Text} (hfeed : ∀ part ∈ parts, '\n' ∉ part)
    (hreturn : ∀ part ∈ parts, '\r' ∉ part) (hne : parts ≠ []) (hlast : parts.getLast hne ≠ []) :
    lines (['\n'].intercalate parts) = parts := by
  have hsplit : (['\n'].intercalate parts).splitOn '\n' = parts.dropLast ++ [parts.getLast hne] := by
    rw [List.splitOn_intercalate '\n' hfeed hne, List.dropLast_append_getLast hne]
  have hfront : parts.dropLast.map withoutReturn = parts.dropLast := by
    rw [List.map_congr_left fun part hpart => withoutReturn_eq_self
      (hreturn part ((List.dropLast_sublist _).subset hpart)), List.map_id']
  rw [lines_of_splitOn hsplit, hfront, if_neg hlast]
  exact List.dropLast_append_getLast hne

/-! ## Trimming -/

theorem trimmed_eq (drop : Char → Bool) (text : Text) :
    trimmed drop text = innerItems drop text :=
  rfl

/-- **Nothing is left** of text in the class, and of no other text. -/
theorem trimmed_eq_nil_iff : trimmed drop text = [] ↔ ∀ c ∈ text, drop c = true :=
  innerItems_eq_nil_iff

/-- **What trimming leaves alone**: text with its first and last character outside the class. -/
theorem trimmed_eq_self_iff :
    trimmed drop text = text ↔
      (∀ c ∈ text.head?, drop c = false) ∧ ∀ c ∈ text.getLast?, drop c = false :=
  innerItems_eq_self_iff

/-- A text that trimming leaves alone begins outside the class. -/
theorem head_trimmed (h : trimmed drop text = text) {c : Char} (hc : text.head? = some c) :
    drop c = false :=
  (trimmed_eq_self_iff.mp h).1 c hc

/-- **Trimming again does nothing.** -/
theorem trimmed_trimmed (drop : Char → Bool) (text : Text) :
    trimmed drop (trimmed drop text) = trimmed drop text :=
  innerItems_innerItems drop text

/-- The carriage return that a line lacks would be trimmed. -/
theorem trimmed_withoutReturn (h : drop '\r' = true) (line : Text) :
    trimmed drop (withoutReturn line) = trimmed drop line := by
  unfold withoutReturn
  split
  · next hlast =>
    obtain ⟨front, rfl⟩ := List.getLast?_eq_some_iff.mp hlast
    rw [List.dropLast_concat]
    exact (innerItems_concat h front).symm
  · rfl

/-- Text outside the class is left alone. -/
theorem trimmed_of_forall (h : ∀ c ∈ text, drop c = false) : trimmed drop text = text :=
  trimmed_eq_self_iff.mpr
    ⟨fun c hc => h c (List.mem_of_mem_head? hc), fun c hc => h c (List.mem_of_mem_getLast? hc)⟩

end EnumCodegen.Text
