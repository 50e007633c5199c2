import EnumCodegen.Text.Quoted
import Mathlib.Data.List.Basic

/-!
# Quoted texts read back

Each character is written so that reading takes exactly its written form off the front. So a quoted
text reads back as itself, whatever its characters are and whatever follows the closing quote.

## Main results

* `codePoint?_hexadecimal`: a code point reads back from its digits
* `readQuoted?_escaped`: a character reads back from its written form
* `unquote?_quoted`: a text reads back from its quoted form
* `quoted_injective`: different texts have different quoted forms
-/

namespace EnumCodegen.Text

/-! ## Code points -/

theorem hexDigit?_digitChar : ∀ d < 16, hexDigit? (Nat.digitChar d) = some d := by decide

theorem digitChar_ne_delimiter : ∀ d < 16,
    Nat.digitChar d ≠ '\x7d' ∧ Nat.digitChar d ≠ '_' := by decide

/-- Reading one more digit. -/
theorem codePoint?_digitChar {d : Nat} (hd : d < 16) (value digits : Nat) (rest : Text) :
    codePoint? value digits (Nat.digitChar d :: rest) =
      codePoint? (value * 16 + d) (digits + 1) rest := by
  obtain ⟨hbrace, hunderscore⟩ := digitChar_ne_delimiter d hd
  rw [codePoint?, hexDigit?_digitChar d hd]
  · exact hbrace
  · exact hunderscore

/-- Reading the digits of a number yields the number. -/
theorem codePoint?_toDigits (n : Nat) (rest : Text) :
    codePoint? 0 0 (hexadecimal n ++ rest) = codePoint? n (hexadecimal n).length rest := by
  unfold hexadecimal
  -- Digits are written from the last to the first and read the other way round.
  induction n using Nat.strongRecOn generalizing rest with
  | _ n ih =>
    rcases Nat.lt_or_ge n 16 with hn | hn
    · rw [Nat.toDigits_of_lt_base hn, List.singleton_append, codePoint?_digitChar hn]
      simp
    · rw [Nat.toDigits_of_base_le (by decide) hn, List.append_assoc,
        ih (n / 16) (Nat.div_lt_self (by omega) (by decide)), List.singleton_append,
        codePoint?_digitChar (Nat.mod_lt n (by decide)), List.length_append,
        List.length_singleton, Nat.div_add_mod']

/-- The code point of a character has at most six digits. -/
theorem length_hexadecimal_le (c : Char) : (hexadecimal c.toNat).length ≤ 6 := by
  have hvalid := c.valid
  simp only [UInt32.isValidChar, Nat.isValidChar] at hvalid
  have hlt : c.toNat < 16 ^ 6 := by
    simp only [Char.toNat]
    omega
  exact (Nat.length_toDigits_le_iff (by decide) (by decide)).mpr hlt

/-- **A code point reads back** from its digits and the brace behind them. -/
theorem codePoint?_hexadecimal (c : Char) (rest : Text) :
    codePoint? 0 0 (hexadecimal c.toNat ++ '\x7d' :: rest) = some (c, rest) := by
  have hvalid : c.toNat.isValidChar := c.valid
  have hpos : 1 ≤ (hexadecimal c.toNat).length := Nat.length_toDigits_pos
  rw [codePoint?_toDigits, codePoint?, if_pos ⟨hpos, length_hexadecimal_le c, hvalid⟩,
    Char.ofNat_toNat]

/-! ## Characters and texts -/

/-- Reading ends behind a closing quote, so less is left. -/
theorem readQuoted?_length {code text rest : Text} (h : readQuoted? code = some (text, rest)) :
    rest.length < code.length := by
  fun_induction readQuoted? code generalizing text with
  | case1 => simp at h
  | case2 => simp_all
  | case3 => simp at h
  | case4 after ih =>
    -- the blanks behind an escaped line end are passed over
    have hskip : (after.dropWhile isBlank).length ≤ after.length :=
      (List.dropWhile_sublist _).length_le
    have := ih h
    simp only [List.length_cons]
    omega
  | case5 after _ c rest' hescape ih =>
    obtain ⟨⟨text', rest''⟩, htext, heq⟩ := Option.map_eq_some_iff.mp h
    obtain ⟨-, rfl⟩ := Prod.mk.inj heq
    have := ih htext
    have := unescape?_length hescape
    simp only [List.length_cons]
    omega
  | case6 => simp at h
  | case7 c after _ _ _ _ ih =>
    obtain ⟨⟨text', rest''⟩, htext, heq⟩ := Option.map_eq_some_iff.mp h
    obtain ⟨-, rfl⟩ := Prod.mk.inj heq
    exact Nat.lt_succ_of_lt (ih htext)

theorem unquote?_length {code text rest : Text} (h : unquote? code = some (text, rest)) :
    rest.length < code.length := by
  unfold unquote? at h
  split at h
  · exact Nat.lt_succ_of_lt (readQuoted?_length h)
  · simp at h

/-- A character that is no quote, backslash or carriage return stands for itself. -/
theorem readQuoted?_plain {c : Char} (hquote : c ≠ '"') (hbackslash : c ≠ '\\') (hreturn : c ≠ '\r')
    (rest : Text) :
    readQuoted? (c :: rest) =
      (readQuoted? rest).map fun (text, after) => (c :: text, after) := by
  rw [readQuoted?]
  · exact hquote
  · exact hreturn
  · intro _ h
    exact absurd h hbackslash
  · exact hbackslash

/-- A backslash stands for the character of the escape behind it. -/
theorem readQuoted?_backslash {c d : Char} {escape rest : Text} (hnewline : d ≠ '\n')
    (h : unescape? (d :: escape) = some (c, rest)) :
    readQuoted? ('\\' :: d :: escape) =
      (readQuoted? rest).map fun (text, after) => (c :: text, after) := by
  rw [readQuoted?]
  · split
    · next c' rest' h' =>
      obtain ⟨rfl, rfl⟩ := Prod.mk.inj (Option.some.inj (h.symm.trans h'))
      rfl
    · next h' => simp [h] at h'
  · intro _ h
    exact hnewline (List.cons.inj h).1

/-- **A character reads back** from its written form. -/
theorem readQuoted?_escaped (c : Char) (rest : Text) :
    readQuoted? (escaped c ++ rest) =
      (readQuoted? rest).map fun (text, after) => (c :: text, after) := by
  unfold escaped
  split
  · next h => exact h ▸ readQuoted?_backslash (by decide) rfl
  split
  · next h => exact h ▸ readQuoted?_backslash (by decide) rfl
  split
  · next h => exact h ▸ readQuoted?_backslash (by decide) rfl
  split
  · next h => exact h ▸ readQuoted?_backslash (by decide) rfl
  split
  · next h => exact h ▸ readQuoted?_backslash (by decide) rfl
  split
  · next h => exact h ▸ readQuoted?_backslash (by decide) rfl
  split
  · next hquote hbackslash _ hreturn _ _ _ =>
    exact readQuoted?_plain hquote hbackslash hreturn rest
  · rw [List.append_assoc, List.append_assoc]
    exact readQuoted?_backslash (by decide) (codePoint?_hexadecimal c rest)

theorem readQuoted?_quoted (text rest : Text) :
    readQuoted? (text.flatMap escaped ++ '"' :: rest) = some (text, rest) := by
  induction text with
  | nil => rw [List.flatMap_nil, List.nil_append, readQuoted?]
  | cons c text ih =>
    rw [List.flatMap_cons, List.append_assoc, readQuoted?_escaped, ih, Option.map_some]

/-- **A text reads back** from its quoted form. -/
@[simp] theorem unquote?_quoted (text rest : Text) :
    unquote? (quoted text ++ rest) = some (text, rest) := by
  change readQuoted? (text.flatMap escaped ++ ['"'] ++ rest) = some (text, rest)
  rw [List.append_assoc]
  exact readQuoted?_quoted text rest

/-- **Quoted texts come apart** from what follows them. -/
theorem quoted_append_inj {text text' rest rest' : Text}
    (h : quoted text ++ rest = quoted text' ++ rest') : text = text' ∧ rest = rest' := by
  have hread := congrArg unquote? h
  rw [unquote?_quoted, unquote?_quoted] at hread
  exact Prod.mk.inj (Option.some.inj hread)

theorem quoted_injective : Function.Injective quoted := by
  intro text text' h
  exact (quoted_append_inj (congrArg (· ++ []) h)).1

end EnumCodegen.Text
