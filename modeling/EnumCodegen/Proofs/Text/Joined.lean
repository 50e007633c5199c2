import EnumCodegen.Text.Basic
import Mathlib.Data.List.Basic

/-!
# Joined and cut text

Joining puts a separator between parts: before every part but the first, or, as well, behind every
part but the last. The characters of the joined text are those of the parts and of the separator.
Cutting loses the separators, and no piece holds one.

## Main results

* `Text.intercalate_cons`, `Text.intercalate_concat`: the separators go with the later parts, or with
  the earlier ones
* `Text.head?_intercalate`: the first character of joined text
* `Text.mem_intercalate`, `Text.mem_intercalate_of_mem`: the characters of joined text
* `Text.flatten_splitOnP`, `Text.notMem_of_mem_splitOn`: the characters of the pieces of cut text
-/

namespace EnumCodegen.Text

variable {separator : Text} {parts : List Text} {c : Char}

/-- Joining with a separator puts it before every part but the first. -/
theorem intercalate_cons (separator first : Text) (rest : List Text) :
    separator.intercalate (first :: rest) = first ++ rest.flatMap (separator ++ ·) := by
  induction rest generalizing first with
  | nil => simp
  | cons second rest ih =>
    rw [List.intercalate_cons_cons, ih, List.flatMap_cons]
    simp only [List.append_assoc]

/-- Joining with a separator puts it behind every part but the last. -/
theorem intercalate_concat (separator : Text) (parts : List Text) (last : Text) :
    separator.intercalate (parts ++ [last]) = parts.flatMap (· ++ separator) ++ last := by
  induction parts with
  | nil => simp
  | cons part parts ih =>
    rw [List.cons_append, List.intercalate_cons_of_ne_nil (by simp), ih, List.flatMap_cons]
    simp only [List.append_assoc]

theorem prefix_intercalate_cons (separator first : Text) (rest : List Text) :
    first <+: separator.intercalate (first :: rest) := by
  rw [intercalate_cons]
  exact List.prefix_append _ _

/-- Joined text begins as its parts do, if none is empty. -/
theorem head?_intercalate (separator : Text) (hparts : ∀ part ∈ parts, part ≠ []) :
    (separator.intercalate parts).head? = parts.flatten.head? := by
  cases parts with
  | nil => rfl
  | cons first rest =>
    obtain ⟨c, first, rfl⟩ := List.exists_cons_of_ne_nil (hparts first List.mem_cons_self)
    rw [intercalate_cons]
    rfl

/-- Joining adds characters of the separator only. -/
theorem mem_intercalate (hc : c ∈ separator.intercalate parts) :
    c ∈ separator ∨ ∃ part ∈ parts, c ∈ part := by
  cases parts with
  | nil => simp at hc
  | cons first rest =>
    rw [intercalate_cons, List.mem_append, List.mem_flatMap] at hc
    rcases hc with hc | ⟨part, hpart, hc⟩
    · exact .inr ⟨first, List.mem_cons_self, hc⟩
    · rcases List.mem_append.mp hc with hc | hc
      · exact .inl hc
      · exact .inr ⟨part, List.mem_cons_of_mem first hpart, hc⟩

/-- Joining loses no character of the parts. -/
theorem mem_intercalate_of_mem {part : Text} (hpart : part ∈ parts) (hc : c ∈ part) :
    c ∈ separator.intercalate parts := by
  cases parts with
  | nil => simp at hpart
  | cons first rest =>
    rw [intercalate_cons, List.mem_append, List.mem_flatMap]
    rcases List.mem_cons.mp hpart with rfl | hpart
    · exact .inl hc
    · exact .inr ⟨part, hpart, List.mem_append_right separator hc⟩

/-! ## Cut text -/

/-- Cutting loses the characters at which it cuts, and no others. -/
theorem flatten_splitOnP (p : Char → Bool) (text : Text) :
    (text.splitOnP p).flatten = text.filter (!p ·) := by
  induction text with
  | nil => rfl
  | cons c text ih =>
    rw [List.splitOnP_cons_eq_if_modifyHead]
    split
    · next hc =>
      rw [List.flatten_cons, List.nil_append, ih, List.filter_cons_of_neg (by simpa using hc)]
    · next hc =>
      -- the character goes to the front of the first piece
      obtain ⟨first, pieces, hsplit⟩ := List.exists_cons_of_ne_nil (List.splitOnP_ne_nil p text)
      rw [hsplit] at ih ⊢
      rw [List.modifyHead_cons, List.filter_cons_of_pos (by simpa using hc), ← ih]
      rfl

/-- A piece holds characters of the text, but none at which it was cut. -/
theorem mem_of_mem_splitOnP {p : Char → Bool} {text piece : Text} (hpiece : piece ∈ text.splitOnP p)
    {c : Char} (hc : c ∈ piece) : c ∈ text ∧ p c = false := by
  have hmem : c ∈ (text.splitOnP p).flatten := List.mem_flatten.mpr ⟨piece, hpiece, hc⟩
  rw [flatten_splitOnP] at hmem
  simpa using hmem

theorem notMem_of_mem_splitOn {separator : Char} {text piece : Text}
    (hpiece : piece ∈ text.splitOn separator) : separator ∉ piece := by
  intro hmem
  have hcut : (separator == separator) = false := (mem_of_mem_splitOnP hpiece hmem).2
  rw [beq_self_eq_true] at hcut
  exact absurd hcut (by decide)

/-- Cutting gives one piece more than there are separators. -/
theorem length_splitOn (separator : Char) (text : Text) :
    (text.splitOn separator).length = text.count separator + 1 := by
  induction text with
  | nil => rfl
  | cons c text ih =>
    rw [List.splitOn_cons_eq_if_modifyHead, List.count_cons]
    split
    · rw [List.length_cons, ih]
    · rw [List.length_modifyHead, ih, Nat.add_zero]

theorem exists_splitOn_concat (separator : Char) (text : Text) :
    ∃ front final, text.splitOn separator = front ++ [final] :=
  (List.eq_nil_or_concat' _).resolve_left (List.splitOnP_ne_nil _ text)

end EnumCodegen.Text
