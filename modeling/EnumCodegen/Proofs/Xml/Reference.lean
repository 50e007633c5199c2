import EnumCodegen.Xml.Markup
import EnumCodegen.Xml.Reference
import EnumCodegen.Proofs.Text.Lines

/-!
# Escaped text

A character is written as itself or as a reference by name, and reading takes exactly that off the
front. What is escaped holds no mark that would end it, and it begins and ends with a blank only if
the text does.

## Main results

* `Xml.unescape?_escapeText`, `Xml.unescape?_escapeValue`: escaped text comes back
* `Xml.notMem_escapeText`, `Xml.notMem_escapeValue`: the marks that escaped text holds none of
* `Xml.trimmed_escapeText`: trimming leaves alone what it left alone before
-/

namespace EnumCodegen.Xml

open Text (isBlank)

/-! ## Coming back -/

/-- A reference is read up to its semicolon. -/
theorem unescapeFrom?_some {name : Text} (h : name.all (fun c => c ≠ ';' && c ≠ '&')) {c : Char}
    (read : Text) (hmeant : reference? (read ++ name) = some c) (rest : Text) :
    unescapeFrom? (some read) (name ++ ';' :: rest) = (unescapeFrom? none rest).map (c :: ·) := by
  induction name generalizing read with
  | nil =>
    rw [List.append_nil] at hmeant
    rw [List.nil_append, unescapeFrom?, if_pos rfl]
    simp only [hmeant]
  | cons d name ih =>
    rw [List.all_cons, Bool.and_eq_true, Bool.and_eq_true, decide_eq_true_eq,
      decide_eq_true_eq] at h
    rw [List.cons_append, unescapeFrom?, if_neg h.1.1, if_neg h.1.2]
    exact ih h.2 (read ++ [d]) (by rw [List.append_assoc]; exact hmeant)

/-- **A reference stands for its character.** -/
theorem unescapeFrom?_reference (name : Text) (h : name.all fun c => c ≠ ';' && c ≠ '&') {c : Char}
    (hmeant : reference? name = some c) (rest : Text) :
    unescapeFrom? none ('&' :: (name ++ ';' :: rest)) = (unescapeFrom? none rest).map (c :: ·) := by
  rw [unescapeFrom?, if_pos rfl]
  exact unescapeFrom?_some h [] hmeant rest

/-- A character comes back from its written form. -/
theorem unescapeFrom?_escapedInText (c : Char) (rest : Text) :
    unescapeFrom? none (escapedInText c ++ rest) = (unescapeFrom? none rest).map (c :: ·) := by
  unfold escapedInText
  split
  · next h => exact h ▸ unescapeFrom?_reference "lt" (by decide) rfl rest
  split
  · next h => exact h ▸ unescapeFrom?_reference "gt" (by decide) rfl rest
  split
  · next h => exact h ▸ unescapeFrom?_reference "amp" (by decide) rfl rest
  · next h => rw [List.singleton_append, unescapeFrom?, if_neg h]

/-- What comes back character by character comes back. -/
theorem unescape?_flatMap {escape : Char → Text}
    (h : ∀ c rest, unescapeFrom? none (escape c ++ rest) = (unescapeFrom? none rest).map (c :: ·))
    (text : Text) : unescape? (text.flatMap escape) = some text := by
  unfold unescape?
  induction text with
  | nil => rfl
  | cons c text ih => rw [List.flatMap_cons, h, ih, Option.map_some]

/-- **Content of an element comes back.** -/
theorem unescape?_escapeText (text : Text) : unescape? (escapeText text) = some text :=
  unescape?_flatMap unescapeFrom?_escapedInText text

/-- **The value of an attribute comes back.** -/
theorem unescape?_escapeValue (text : Text) : unescape? (escapeValue text) = some text := by
  refine unescape?_flatMap (fun c rest => ?_) text
  split
  · next h => exact h ▸ unescapeFrom?_reference "quot" (by decide) rfl rest
  · exact unescapeFrom?_escapedInText c rest

/-! ## Marks -/

theorem notMem_escapedInText (c : Char) : '<' ∉ escapedInText c := by
  unfold escapedInText
  split
  · decide
  split
  · decide
  split
  · decide
  · next h _ _ => simpa [eq_comm] using h

/-- **Content of an element opens no tag.** -/
theorem notMem_escapeText (text : Text) : '<' ∉ escapeText text := by
  intro h
  obtain ⟨c, -, hc⟩ := List.mem_flatMap.mp h
  exact notMem_escapedInText c hc

/-- **The value of an attribute holds no quote.** -/
theorem notMem_escapeValue (text : Text) : '"' ∉ escapeValue text := by
  intro h
  obtain ⟨c, -, hc⟩ := List.mem_flatMap.mp h
  split at hc
  · exact absurd hc (by decide)
  · next hquote =>
    unfold escapedInText at hc
    repeat' split at hc
    · exact absurd hc (by decide)
    · exact absurd hc (by decide)
    · exact absurd hc (by decide)
    · exact hquote (List.mem_singleton.mp hc).symm

/-! ## Blanks -/

/-- A character that is not blank is written without blanks. -/
theorem isBlank_of_mem_escapedInText {c d : Char} (hc : isBlank c = false)
    (hd : d ∈ escapedInText c) : isBlank d = false := by
  unfold escapedInText at hd
  have hreference : ∀ name : Text, name.all (!isBlank ·) = true → d ∈ name → isBlank d = false :=
    fun name hname hmem => by simpa using List.all_eq_true.mp hname d hmem
  repeat' split at hd
  · exact hreference _ (by decide) hd
  · exact hreference _ (by decide) hd
  · exact hreference _ (by decide) hd
  · rw [List.mem_singleton.mp hd, hc]

theorem escapedInText_ne_nil (c : Char) : escapedInText c ≠ [] := by
  unfold escapedInText
  repeat' split
  all_goals simp

theorem escapeText_eq_nil_iff {text : Text} : escapeText text = [] ↔ text = [] := by
  rw [escapeText, List.flatMap_eq_nil_iff]
  constructor
  · intro h
    by_contra hne
    exact escapedInText_ne_nil _ (h _ (List.head_mem hne))
  · rintro rfl _ h
    cases h

/-- **Trimming leaves escaped text alone**, if it does so with the text. -/
theorem trimmed_escapeText {text : Text} (h : Text.trimmed isBlank text = text) :
    Text.trimmed isBlank (escapeText text) = escapeText text := by
  rw [Text.trimmed_eq_self_iff] at h ⊢
  constructor
  · intro d hd
    cases text with
    | nil => cases hd
    | cons c text =>
      rw [escapeText, List.flatMap_cons, List.head?_append_of_ne_nil _ (escapedInText_ne_nil c)] at hd
      exact isBlank_of_mem_escapedInText (h.1 c rfl) (List.mem_of_mem_head? hd)
  · intro d hd
    rcases List.eq_nil_or_concat' text with rfl | ⟨front, c, rfl⟩
    · cases hd
    · rw [escapeText, List.flatMap_append, List.flatMap_singleton,
        List.getLast?_append_of_ne_nil _ (escapedInText_ne_nil c)] at hd
      exact isBlank_of_mem_escapedInText (h.2 c (by simp)) (List.mem_of_mem_getLast? hd)

end EnumCodegen.Xml
