import EnumCodegen.Json.Parser
import EnumCodegen.Json.Printer

/-!
# Written JSON reads back

Every character of a string is written so that one step of reading takes exactly its written form. A
value is read up to its end, whatever follows: its first character tells what it is, and the bracket
behind its last part ends it. Numbers are left aside.

## Main definitions

* `Json.NumberFree`: values without numbers

## Main results

* `Json.readString?_quoted`: a string reads back
* `Json.readValue?_written`: a value reads back from the start of a text
* `Json.parse?_written`: a value reads back
-/

namespace EnumCodegen.Json

open Text (isBlank)

/-! ## Characters and strings -/

theorem codeUnit?_append {text after : Text} {unit : Nat} (h : codeUnit? text = some (unit, after))
    (rest : Text) : codeUnit? (text ++ rest) = some (unit, after ++ rest) := by
  unfold codeUnit? at h
  split at h
  · next a b c d after' =>
    obtain ⟨n, hn, heq⟩ := Option.bind_eq_some_iff.mp h
    obtain ⟨rfl, rfl⟩ := Prod.mk.inj (Option.some.inj heq)
    exact Option.bind_eq_some_iff.mpr ⟨n, hn, rfl⟩
  · cases h

/-- Control characters read back from their digits. -/
theorem codeUnit?_fourDigits : ∀ n < 32, codeUnit? (fourDigits n) = some (n, []) := by decide

theorem unicodeEscape?_fourDigits {c : Char} (hc : c.toNat < 32) (rest : Text) :
    unicodeEscape? (fourDigits c.toNat ++ rest) = some (c, rest) := by
  have hunit := codeUnit?_append (codeUnit?_fourDigits c.toNat hc) rest
  have hvalid : c.toNat.isValidChar := c.valid
  rw [unicodeEscape?, hunit, Option.bind_eq_bind, Option.bind_some]
  simp only [hvalid, if_true, Char.ofNat_toNat]
  rfl

/-- A backslash stands for the character of the escape behind it. -/
theorem readCharacters?_backslash {c : Char} {escape rest : Text}
    (h : unescape? escape = some (c, rest)) (steps : Nat) :
    readCharacters? (steps + 1) ('\\' :: escape) =
      (readCharacters? steps rest).map fun (text, after) => (c :: text, after) := by
  rw [readCharacters?]
  simp [h]

/-- **A character reads back** from its written form, in one step. -/
theorem readCharacters?_escaped (c : Char) (steps : Nat) (rest : Text) :
    readCharacters? (steps + 1) (escaped c ++ rest) =
      (readCharacters? steps rest).map fun (text, after) => (c :: text, after) := by
  unfold escaped
  split
  · next h => exact h ▸ readCharacters?_backslash rfl steps
  split
  · next h => exact h ▸ readCharacters?_backslash rfl steps
  split
  · next h => exact h ▸ readCharacters?_backslash rfl steps
  split
  · next h => exact h ▸ readCharacters?_backslash rfl steps
  split
  · next h => exact h ▸ readCharacters?_backslash rfl steps
  split
  · next h => exact h ▸ readCharacters?_backslash rfl steps
  split
  · next h => exact h ▸ readCharacters?_backslash rfl steps
  split
  · next hcontrol =>
    have hescape : unescape? ('u' :: (fourDigits c.toNat ++ rest)) = some (c, rest) :=
      unicodeEscape?_fourDigits hcontrol rest
    exact readCharacters?_backslash hescape steps
  · next hquote hbackslash _ _ _ _ _ hcontrol =>
    rw [List.singleton_append, readCharacters?]
    simp [hquote, hbackslash, hcontrol]

theorem escaped_ne_nil (c : Char) : escaped c ≠ [] := by
  unfold escaped
  repeat' split
  all_goals simp

theorem length_le_flatMap_escaped (text : Text) : text.length ≤ (text.flatMap escaped).length := by
  induction text with
  | nil => exact Nat.zero_le _
  | cons c text ih =>
    have := List.length_pos_iff.mpr (escaped_ne_nil c)
    rw [List.flatMap_cons, List.length_append, List.length_cons]
    omega

theorem readCharacters?_quoted (text rest : Text) {steps : Nat} (hsteps : text.length < steps) :
    readCharacters? steps (text.flatMap escaped ++ '"' :: rest) = some (text, rest) := by
  induction text generalizing steps with
  | nil =>
    obtain ⟨steps, rfl⟩ := Nat.exists_eq_succ_of_ne_zero (Nat.ne_zero_of_lt hsteps)
    rfl
  | cons c text ih =>
    obtain ⟨steps, rfl⟩ := Nat.exists_eq_succ_of_ne_zero (Nat.ne_zero_of_lt hsteps)
    rw [List.flatMap_cons, List.append_assoc, readCharacters?_escaped,
      ih (Nat.lt_of_succ_lt_succ hsteps), Option.map_some]

/-- **A string reads back**, whatever its characters are. -/
theorem readString?_quoted (text rest : Text) :
    readString? (text.flatMap escaped ++ '"' :: rest) = some (text, rest) := by
  apply readCharacters?_quoted
  have := length_le_flatMap_escaped text
  rw [List.length_append, List.length_cons]
  omega

/-! ## Values -/

/-- **A value without numbers.** -/
inductive NumberFree : Json → Prop where
  | null : NumberFree null
  | boolean (value : Bool) : NumberFree (boolean value)
  | string (text : Text) : NumberFree (string text)
  | list {items : List Json} (h : ∀ item ∈ items, NumberFree item) : NumberFree (list items)
  | object {members : List (Text × Json)} (h : ∀ member ∈ members, NumberFree member.2) :
    NumberFree (object members)

/-- A value reads back from the start of a text. Every character of its written form allows for two
steps: a value takes one, and so does every part of a list or an object. -/
def ReadsBack (value : Json) : Prop :=
  ∀ (rest : Text) (steps : Nat), 2 * value.written.length ≤ steps →
    readValue? steps (value.written ++ rest) = some (value, rest)

theorem skipBlank_cons {c : Char} (hc : isBlank c = false) (rest : Text) :
    skipBlank (c :: rest) = c :: rest :=
  List.dropWhile_cons_of_neg (by simp [hc])

/-- The first character of a value is not blank, and no closing bracket. -/
theorem NumberFree.written_eq_cons {value : Json} (h : value.NumberFree) :
    ∃ c tail, value.written = c :: tail ∧ isBlank c = false ∧ c ≠ ']' := by
  cases h with
  | null => exact ⟨'n', _, rfl, by decide, by decide⟩
  | boolean value => cases value <;> exact ⟨_, _, rfl, by decide, by decide⟩
  | string text => exact ⟨'"', _, rfl, by decide, by decide⟩
  | @list items => cases items <;> exact ⟨'[', _, rfl, by decide, by decide⟩
  | @object members => cases members <;> exact ⟨'\x7b', _, rfl, by decide, by decide⟩

/-- The items of a list read back. -/
theorem readItems?_written {item : Json} {items : List Json}
    (h : ∀ value ∈ item :: items, value.ReadsBack) (rest : Text) {steps : Nat}
    (hsteps : 2 * (item.written.length + (writtenItems items).length) ≤ steps) :
    readItems? steps (item.written ++ (writtenItems items ++ rest)) = some (item :: items, rest) := by
  induction items generalizing item steps with
  | nil =>
    rw [writtenItems, List.length_singleton] at hsteps
    obtain ⟨steps, rfl⟩ : ∃ n, steps = n + 1 := ⟨steps - 1, by omega⟩
    rw [readItems?, h item List.mem_cons_self _ _ (by omega)]
    simp [writtenItems, skipBlank_cons (c := ']') (by decide)]
  | cons next items ih =>
    rw [writtenItems, List.length_cons, List.length_append] at hsteps
    obtain ⟨steps, rfl⟩ : ∃ n, steps = n + 1 := ⟨steps - 1, by omega⟩
    have hleft : 2 * (next.written.length + (writtenItems items).length) ≤ steps := by omega
    have hnext := ih (fun value hvalue => h value (List.mem_cons_of_mem _ hvalue)) hleft
    rw [readItems?, h item List.mem_cons_self _ _ (by omega)]
    simp [writtenItems, skipBlank_cons (c := ',') (by decide), hnext]

/-- The members of an object read back. -/
theorem readMembers?_written {name : Text} {value : Json} {members : List (Text × Json)}
    (h : ∀ member ∈ (name, value) :: members, member.2.ReadsBack) (rest : Text) {steps : Nat}
    (hsteps : 2 * ((quoted name).length + 1 + value.written.length +
      (writtenMembers members).length) ≤ steps) :
    readMembers? steps (quoted name ++ ':' :: (value.written ++ (writtenMembers members ++ rest))) =
      some ((name, value) :: members, rest) := by
  induction members generalizing name value steps with
  | nil =>
    rw [writtenMembers, List.length_singleton] at hsteps
    obtain ⟨steps, rfl⟩ : ∃ n, steps = n + 1 := ⟨steps - 1, by omega⟩
    have hvalue := h _ List.mem_cons_self ('\x7d' :: rest) steps (by dsimp only; omega)
    rw [readMembers?]
    simp [quoted, writtenMembers, skipBlank_cons (c := '"') (by decide),
      skipBlank_cons (c := ':') (by decide), skipBlank_cons (c := '\x7d') (by decide),
      readString?_quoted, hvalue]
  | cons member members ih =>
    obtain ⟨next, nextValue⟩ := member
    rw [writtenMembers, List.length_cons, List.length_append, List.length_cons,
      List.length_append] at hsteps
    obtain ⟨steps, rfl⟩ : ∃ n, steps = n + 1 := ⟨steps - 1, by omega⟩
    have hleft : 2 * ((quoted next).length + 1 + nextValue.written.length +
        (writtenMembers members).length) ≤ steps := by omega
    have hnext := ih (fun member hmember => h member (List.mem_cons_of_mem _ hmember)) hleft
    have hvalue := h _ List.mem_cons_self
      (writtenMembers ((next, nextValue) :: members) ++ rest) steps (by dsimp only; omega)
    rw [readMembers?]
    simp [quoted, writtenMembers, skipBlank_cons (c := '"') (by decide),
      skipBlank_cons (c := ':') (by decide), readString?_quoted] at hvalue hnext ⊢
    simp [hvalue, hnext, skipBlank_cons (c := ',') (by decide)]

/-- **A value without numbers reads back** from the start of a text. -/
theorem readValue?_written {value : Json} (h : value.NumberFree) : value.ReadsBack := by
  -- Over the value's construction: its first character decides how it is read, and its parts read
  -- back by induction.
  induction h with
  | null =>
    intro rest steps hsteps
    obtain ⟨steps, rfl⟩ : ∃ n, steps = n + 1 := ⟨steps - 1, by simp [written] at hsteps; omega⟩
    rfl
  | boolean value =>
    intro rest steps hsteps
    obtain ⟨steps, rfl⟩ : ∃ n, steps = n + 1 :=
      ⟨steps - 1, by cases value <;> simp [written] at hsteps <;> omega⟩
    cases value <;> rfl
  | string text =>
    intro rest steps hsteps
    obtain ⟨steps, rfl⟩ : ∃ n, steps = n + 1 :=
      ⟨steps - 1, by simp [written, quoted] at hsteps; omega⟩
    rw [readValue?]
    simp [written, quoted, skipBlank_cons (c := '"') (by decide), readString?_quoted]
  | @list items hitems ih =>
    intro rest steps hsteps
    cases items with
    | nil =>
      obtain ⟨steps, rfl⟩ : ∃ n, steps = n + 1 := ⟨steps - 1, by simp [written] at hsteps; omega⟩
      rfl
    | cons item items =>
      rw [written, List.length_cons, List.length_append] at hsteps
      obtain ⟨steps, rfl⟩ : ∃ n, steps = n + 1 := ⟨steps - 1, by omega⟩
      have hleft : 2 * (item.written.length + (writtenItems items).length) ≤ steps := by omega
      have hread := readItems?_written ih rest hleft
      obtain ⟨c, tail, hc, hblank, hbracket⟩ := (hitems item List.mem_cons_self).written_eq_cons
      rw [written, List.cons_append, List.append_assoc, readValue?,
        skipBlank_cons (c := '[') (by decide)]
      rw [hc, List.cons_append] at hread ⊢
      simp only [skipBlank_cons hblank]
      -- A closing bracket behind the opening one would make the list empty.
      split
      · next heq => exact absurd (List.cons.inj heq).1 hbracket
      · rw [hread, Option.map_some]
  | @object members hmembers ih =>
    intro rest steps hsteps
    cases members with
    | nil =>
      obtain ⟨steps, rfl⟩ : ∃ n, steps = n + 1 := ⟨steps - 1, by simp [written] at hsteps; omega⟩
      rfl
    | cons member members =>
      obtain ⟨name, value⟩ := member
      rw [written, List.length_cons, List.length_append, List.length_cons,
        List.length_append] at hsteps
      obtain ⟨steps, rfl⟩ : ∃ n, steps = n + 1 := ⟨steps - 1, by omega⟩
      have hleft : 2 * ((quoted name).length + 1 + value.written.length +
          (writtenMembers members).length) ≤ steps := by omega
      have hread := readMembers?_written ih rest hleft
      rw [written, List.cons_append, List.append_assoc, List.cons_append, List.append_assoc,
        readValue?, skipBlank_cons (c := '\x7b') (by decide)]
      rw [quoted, List.cons_append, List.cons_append] at hread ⊢
      simp only [skipBlank_cons (c := '"') (by decide)]
      split
      · next heq => exact absurd (List.cons.inj heq).1 (by decide)
      · rw [hread, Option.map_some]

/-- **A value without numbers reads back.** -/
theorem parse?_written {value : Json} (h : value.NumberFree) : parse? value.written = some value := by
  have hread := readValue?_written h [] (2 * value.written.length + 1) (by omega)
  rw [List.append_nil] at hread
  rw [parse?, hread]
  rfl

end EnumCodegen.Json
