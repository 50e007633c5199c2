import EnumCodegen.GraphQL.Token

/-!
# Reading tokens one by one

A token that stands next is read with its whole spelling, and what stands between tokens is passed
over. So the tokens of a document are those of its pieces, as long as no name runs into the next
piece.

## Main definitions

* `GraphQL.isName`: the names

## Main results

* `lex?_ignored`: what stands between tokens
* `lex?_name`, `lex?_punctuator`, `lex?_block`: names, punctuators and block strings
-/

namespace EnumCodegen.GraphQL

variable {c : Char} {name : Text}

/-- **Names**: a letter or underscore, and then letters, digits and underscores. -/
def isName : Text → Bool
  | [] => false
  | c :: rest => isNameStart c && rest.all isNameContinue

/-- The tokens of a document are the next one and those of what follows it. -/
theorem lex?_eq_bind (hcomment : c ≠ '#') (hignored : isIgnored c = false) (text : Text) :
    lex? (c :: text) =
      (readToken? (c :: text)).bind fun (token, after) => (lex? after).map (token :: ·) := by
  have hnext : skipIgnored false (c :: text) = c :: text := by
    simp [skipIgnored, hcomment, hignored]
  rw [lex?, hnext]
  split
  · next hempty => simp at hempty
  split
  · next hread => rw [hread, Option.bind_some]
  · next hread => rw [hread, Option.bind_none]

/-- The end of a document. -/
theorem lex?_nil : lex? [] = some [] := by
  rw [lex?]
  rfl

/-- **What stands between tokens** means nothing. -/
theorem lex?_ignored (hc : isIgnored c = true) (text : Text) : lex? (c :: text) = lex? text := by
  have hcomment : c ≠ '#' := by
    rintro rfl
    exact absurd hc (by decide)
  have hnext : skipIgnored false (c :: text) = skipIgnored false text := by
    simp [skipIgnored, hcomment, hc]
  rw [lex?, lex?, hnext]

theorem lex?_ignored_append {gap : Text} (hgap : ∀ c ∈ gap, isIgnored c = true) (text : Text) :
    lex? (gap ++ text) = lex? text := by
  induction gap with
  | nil => rfl
  | cons c gap ih =>
    obtain ⟨hc, hrest⟩ := List.forall_mem_cons.mp hgap
    rw [List.cons_append, lex?_ignored hc, ih hrest]

/-- **A block string** that stands next. -/
theorem lex?_block (text : Text) :
    lex? ('"' :: '"' :: '"' :: text) = (readBlock? text).bind fun (written, after) =>
      (lex? after).map (.string (blockValue written) :: ·) := by
  rw [lex?_eq_bind (by decide) rfl, readToken?, Option.bind_map]
  rfl

/-! ## Punctuators and names -/

/-- Punctuators do not mean anything else. -/
theorem punctuator_alone (hc : isPunctuator c = true) :
    isIgnored c = false ∧ isNameStart c = false ∧ c ≠ '#' ∧ c ≠ '"' ∧ c ≠ '.' := by
  have hmem : c ∈ punctuators := by simpa [isPunctuator] using hc
  simp only [punctuators, List.mem_cons, List.not_mem_nil, or_false] at hmem
  rcases hmem with rfl | rfl | rfl | rfl | rfl | rfl | rfl | rfl | rfl | rfl | rfl | rfl | rfl <;>
    decide

/-- The starts of names do not mean anything else. -/
theorem nameStart_alone (hc : isNameStart c = true) :
    isIgnored c = false ∧ isPunctuator c = false ∧ c ≠ '#' ∧ c ≠ '"' ∧ c ≠ '.' := by
  have hne : ∀ d, isNameStart d = false → c ≠ d := by
    rintro d hd rfl
    rw [hc] at hd
    simp at hd
  refine ⟨?_, ?_, hne _ rfl, hne _ rfl, hne _ rfl⟩
  · simp [isIgnored, isBlank, isLineEnd, hne ' ' rfl, hne '\t' rfl, hne '\n' rfl, hne '\r' rfl,
      hne ',' rfl, hne '\uFEFF' rfl]
  · rw [Bool.eq_false_iff]
    intro hpunctuator
    exact absurd hc (by simp [(punctuator_alone hpunctuator).2.1])

/-- **A punctuator** that stands next. -/
theorem lex?_punctuator (hc : isPunctuator c = true) (after : Text) :
    lex? (c :: after) = (lex? after).map (.punctuator [c] :: ·) := by
  obtain ⟨hignored, -, hcomment, hquote, hdot⟩ := punctuator_alone hc
  have hread : readToken? (c :: after) = some (.punctuator [c], after) := by
    rw [readToken?, if_pos hc]
    · intro _ h _
      exact hquote h
    · exact hquote
    · intro _ h _
      exact hdot h
  rw [lex?_eq_bind hcomment hignored, hread, Option.bind_some]

/-- **A name** that stands next, and does not run on. -/
theorem lex?_name {d : Char} (hname : isName name = true) (hd : isNameContinue d = false)
    (after : Text) :
    lex? (name ++ d :: after) = (lex? (d :: after)).map (.name name :: ·) := by
  cases name with
  | nil => simp [isName] at hname
  | cons c rest =>
    obtain ⟨hstart, hrest⟩ := Bool.and_eq_true_iff.mp hname
    obtain ⟨hignored, hpunctuator, hcomment, hquote, hdot⟩ := nameStart_alone hstart
    have hall : ∀ e ∈ rest, isNameContinue e = true := List.all_eq_true.mp hrest
    have hread : readToken? (c :: (rest ++ d :: after)) = some (.name (c :: rest), d :: after) := by
      rw [readToken?, if_neg (by simp [hpunctuator]), if_pos hstart,
        List.takeWhile_append_of_pos hall, List.dropWhile_append_of_pos hall]
      · simp [hd]
      · intro _ h _
        exact hquote h
      · exact hquote
      · intro _ h _
        exact hdot h
    rw [List.cons_append, lex?_eq_bind hcomment hignored, hread, Option.bind_some]

end EnumCodegen.GraphQL
