import EnumCodegen.Document.Error
import EnumCodegen.Error
import EnumCodegen.Proofs.Text.Quoted

/-!
# Reports tell causes apart

A report says what it is about: the token, the parameter or the number it blames, or the file. Tokens
and parameters are quoted and numbers end with their digits, so each of them comes apart from the words
around it, and the words tell the causes of different kinds apart. So a report determines its cause.

## Main definitions

* `ParameterError.subject?`, `GenerateError.subject?`: what a report is about, as it is written there

## Main results

* `GenerateError.subject_infix_message`: a report names what it is about
* `GenerateError.message_injective`: different causes have different reports
* `Unrecognized.message_injective`: different numbers and names have different reports
-/

namespace EnumCodegen

/-! ## Numerals -/

namespace Text

theorem isDigit_of_mem_numeral {n : Nat} {c : Char} (hc : c ∈ numeral n) : c.isDigit = true :=
  Nat.isDigit_of_mem_toDigits (by decide) (by decide) hc

theorem numeral_injective : Function.Injective numeral := by
  intro m n h
  have hread := congrArg (Nat.ofDigitChars 10 · 0) h
  simpa [numeral] using hread

/-- The digits of a number end at the first blank behind them. -/
theorem numeral_append_inj {m n : Nat} {rest rest' : Text}
    (h : numeral m ++ ' ' :: rest = numeral n ++ ' ' :: rest') : m = n ∧ rest = rest' := by
  have htake (n : Nat) (rest : Text) :
      (numeral n ++ ' ' :: rest).takeWhile Char.isDigit = numeral n := by
    -- all characters of the numeral are digits, and the blank is none
    rw [List.takeWhile_append_of_pos fun _ => isDigit_of_mem_numeral,
      List.takeWhile_cons_of_neg (by decide), List.append_nil]
  have hdigits := congrArg (List.takeWhile Char.isDigit) h
  rw [htake, htake] at hdigits
  obtain rfl := numeral_injective hdigits
  exact ⟨rfl, List.tail_eq_of_cons_eq (List.append_cancel_left h)⟩

/-- A number begins with a digit. -/
theorem isDigit_head_numeral {n : Nat} {c : Char} {rest rest' : Text}
    (h : numeral n ++ rest = c :: rest') : c.isDigit = true := by
  have hne : numeral n ≠ [] := Nat.toDigits_ne_nil
  have hhead : (numeral n).head? = some c := by
    rw [← List.head?_append_of_ne_nil _ hne, h, List.head?_cons]
  exact isDigit_of_mem_numeral (List.mem_of_mem_head? hhead)

/-- A minus sign is no digit, so numbers with a sign come apart from the blank behind them too. -/
theorem signedNumeral_append_inj {m n : Int} {rest rest' : Text}
    (h : signedNumeral m ++ ' ' :: rest = signedNumeral n ++ ' ' :: rest') :
    m = n ∧ rest = rest' := by
  cases m with
  | ofNat m =>
    cases n with
    | ofNat n =>
      obtain ⟨rfl, hrest⟩ := numeral_append_inj h
      exact ⟨rfl, hrest⟩
    | negSucc n => exact absurd (isDigit_head_numeral h) (by decide)
  | negSucc m =>
    cases n with
    | ofNat n => exact absurd (isDigit_head_numeral h.symm) (by decide)
    | negSucc n =>
      obtain ⟨-, hdigits⟩ := List.cons.inj h
      obtain ⟨hsucc, hrest⟩ := numeral_append_inj hdigits
      obtain rfl := Nat.succ.inj hsucc
      exact ⟨rfl, hrest⟩

/-- A number with a sign is no quoted text, whatever follows. -/
theorem signedNumeral_append_ne_quoted {n : Int} {text rest rest' : Text} :
    signedNumeral n ++ rest ≠ quoted text ++ rest' := by
  intro h
  cases n with
  | ofNat n => exact absurd (isDigit_head_numeral h) (by decide)
  | negSucc n => exact absurd (List.cons.inj h).1 (by decide)

end Text

open Text

/-! ## Parameters and files -/

/-- **What a parameter error is about**: the token or the whole parameter, in quotes. -/
def ParameterError.subject? : ParameterError → Option Text
  | missing => none
  | unrecognized token => some token.quoted
  | noMode parameter => some parameter.quoted

/-- **What an error is about**: a token or parameter in quotes, or the name of a file. -/
def GenerateError.subject? : GenerateError → Option Text
  | parameter cause => cause.subject?
  | unsupportedMode token => some token.quoted
  | unknownFile name => some name

theorem ParameterError.subject_infix_message {error : ParameterError} {subject : Text}
    (h : error.subject? = some subject) : subject <:+: error.message := by
  cases error with
  | missing => cases h
  | unrecognized token =>
    obtain rfl := Option.some.inj h
    exact (List.suffix_append _ _).isInfix
  | noMode parameter =>
    obtain rfl := Option.some.inj h
    exact ⟨_, _, rfl⟩

/-- **A report names what it is about.** -/
theorem GenerateError.subject_infix_message {error : GenerateError} {subject : Text}
    (h : error.subject? = some subject) : subject <:+: error.message := by
  cases error with
  | parameter cause =>
    exact (ParameterError.subject_infix_message h).trans (List.suffix_append _ _).isInfix
  | unsupportedMode token =>
    obtain rfl := Option.some.inj h
    exact (List.suffix_append _ _).isInfix
  | unknownFile name =>
    obtain rfl := Option.some.inj h
    exact (List.suffix_append _ _).isInfix

/-- The letter with which the words of a parameter error begin. -/
def ParameterError.initial : ParameterError → Char
  | missing => 'n'
  | unrecognized _ => 'u'
  | noMode _ => 'm'

/-- The letter with which a report begins. -/
def GenerateError.initial : GenerateError → Char
  | parameter _ => 'c'
  | unsupportedMode _ => 'u'
  | unknownFile _ => 'f'

theorem ParameterError.head?_message (error : ParameterError) :
    error.message.head? = some error.initial := by
  cases error <;> rfl

theorem GenerateError.head?_message (error : GenerateError) :
    error.message.head? = some error.initial := by
  cases error <;> rfl

theorem ParameterError.message_injective : Function.Injective ParameterError.message := by
  intro error error' h
  have hinitial : some error.initial = some error'.initial := by
    rw [← head?_message, ← head?_message, h]
  -- words with one initial are of one kind, and quotes show where a token or parameter ends
  cases error <;> cases error' <;> simp [initial] at hinitial
  case missing.missing => rfl
  case unrecognized.unrecognized token token' =>
    rw [quoted_injective (List.append_cancel_left h)]
  case noMode.noMode parameter parameter' =>
    have hquoted := List.append_cancel_left (List.append_cancel_right h)
    rw [quoted_injective hquoted]

/-- **Different causes have different reports.** -/
theorem GenerateError.message_injective : Function.Injective GenerateError.message := by
  intro error error' h
  have hinitial : some error.initial = some error'.initial := by
    rw [← head?_message, ← head?_message, h]
  cases error <;> cases error' <;> simp [initial] at hinitial
  case parameter.parameter cause cause' =>
    rw [ParameterError.message_injective (List.append_cancel_left h)]
  case unsupportedMode.unsupportedMode token token' =>
    rw [quoted_injective (List.append_cancel_left h)]
  case unknownFile.unknownFile name name' =>
    rw [List.append_cancel_left h]

/-! ## Values of enums -/

namespace Unrecognized

theorem message_eq (cause : Unrecognized) : cause.message =
    "unrecognized value " ++ (cause.value ++ (" for enum " ++ cause.enumName)) := by
  unfold message
  simp only [List.append_assoc]

/-- **A report names the value and its enum.** -/
theorem infix_message (cause : Unrecognized) :
    cause.value <:+: cause.message ∧ cause.enumName <:+: cause.message := by
  constructor
  · rw [message_eq, ← List.append_assoc]
    exact List.infix_append _ _ _
  · exact (List.suffix_append _ _).isInfix

/-- **Different causes have different reports**: a number ends with its digits and a name with its
closing quote, and what follows the words behind it is the name of the enum. -/
theorem message_injective : Function.Injective message := by
  intro cause cause' h
  -- the value stands behind the same words in every report
  rw [message_eq, message_eq] at h
  have hwritten := List.append_cancel_left h
  cases cause with
  | number enum n =>
    cases cause' with
    | number enum' n' =>
      obtain ⟨hn, hrest⟩ := signedNumeral_append_inj hwritten
      obtain rfl := Int32.toInt_inj.mp hn
      have hwords : "for enum ".toList ++ enum = "for enum ".toList ++ enum' := hrest
      obtain rfl := List.append_cancel_left hwords
      rfl
    | name enum' text => exact absurd hwritten signedNumeral_append_ne_quoted
  | name enum text =>
    cases cause' with
    | number enum' n => exact absurd hwritten.symm signedNumeral_append_ne_quoted
    | name enum' text' =>
      obtain ⟨rfl, hrest⟩ := quoted_append_inj hwritten
      obtain rfl : enum = enum' := List.append_cancel_left hrest
      rfl

end Unrecognized

end EnumCodegen
