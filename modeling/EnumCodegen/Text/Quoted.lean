import EnumCodegen.Text.Basic
import EnumCodegen.Text.CharClass

/-!
# Quoted text

A quoted text stands between double quotes; quotes, backslashes, a few controls and whatever does
not print as itself are escaped. The form is a string literal of the language that is generated,
and it is also how texts appear in messages.

## Main definitions

* `Text.escaped`: the written form of one character
* `Text.quoted`: the written form of a text
* `Text.unescape?`, `Text.unquote?`: reading an escape and a quoted text
-/

namespace EnumCodegen.Text

open CharClass

/-- **The written form of a character** between quotes. -/
def escaped (c : Char) : Text :=
  if c = '"' then "\\\""
  else if c = '\\' then "\\\\"
  else if c = '\n' then "\\n"
  else if c = '\r' then "\\r"
  else if c = '\t' then "\\t"
  else if c = Char.ofNat 0 then "\\0"
  else if isPrintable c then [c]
  else "\\u\x7b" ++ hexadecimal c.toNat ++ "\x7d"

/-- **The quoted form of a text.** -/
def quoted (text : Text) : Text :=
  '"' :: text.flatMap escaped ++ ['"']

/-- Reads hexadecimal digits up to a closing brace: the character with that code point, and what
follows the brace. There are one to six digits; underscores may follow each of them. -/
def codePoint? (value digits : Nat) : Text → Option (Char × Text)
  | [] => none
  | '\x7d' :: rest =>
    if 1 ≤ digits ∧ digits ≤ 6 ∧ value.isValidChar then some (Char.ofNat value, rest) else none
  | '_' :: rest => if digits = 0 then none else codePoint? value digits rest
  | c :: rest =>
    match hexDigit? c with
    | some digit => codePoint? (value * 16 + digit) (digits + 1) rest
    | none => none

/-- **Reading an escape**, behind its backslash: the character it stands for, and what follows. -/
def unescape? : Text → Option (Char × Text)
  | '"' :: rest => some ('"', rest)
  | '\'' :: rest => some ('\'', rest)
  | '\\' :: rest => some ('\\', rest)
  | 'n' :: rest => some ('\n', rest)
  | 'r' :: rest => some ('\r', rest)
  | 't' :: rest => some ('\t', rest)
  | '0' :: rest => some (Char.ofNat 0, rest)
  | 'x' :: high :: low :: rest =>
    match hexDigit? high, hexDigit? low with
    | some h, some l => if h < 8 then some (Char.ofNat (h * 16 + l), rest) else none
    | _, _ => none
  | 'u' :: '\x7b' :: rest => codePoint? 0 0 rest
  | _ => none

theorem codePoint?_length {value digits : Nat} {text rest : Text} {c : Char}
    (h : codePoint? value digits text = some (c, rest)) : rest.length < text.length := by
  fun_induction codePoint? value digits text with
  | case1 => simp at h
  | case2 => simp_all
  | case3 => simp at h
  | case4 => simp at h
  | case5 _ _ _ _ ih => exact Nat.lt_succ_of_lt (ih h)
  | case6 _ _ _ _ _ _ _ _ ih => exact Nat.lt_succ_of_lt (ih h)
  | case7 => simp at h

theorem unescape?_length {text rest : Text} {c : Char} (h : unescape? text = some (c, rest)) :
    rest.length < text.length := by
  fun_cases unescape? text <;> simp_all [unescape?]
  case case8 => obtain ⟨_, _, rfl⟩ := h; omega
  case case9 => omega
  case case11 =>
    have bound := codePoint?_length h
    omega

/-- **Reading a quoted text** behind its opening quote: the text, and what follows its closing
quote. Line ends are line feeds; a carriage return stands in no quoted text, and a backslash at the
end of a line leaves out the line end and the blanks behind it. -/
def readQuoted? : Text → Option (Text × Text)
  | [] => none
  | '"' :: rest => some ([], rest)
  | '\r' :: _ => none
  | '\\' :: '\n' :: rest => readQuoted? (rest.dropWhile isBlank)
  | '\\' :: rest =>
    match _h : unescape? rest with
    | some (c, rest') => (readQuoted? rest').map fun (text, after) => (c :: text, after)
    | none => none
  | c :: rest => (readQuoted? rest).map fun (text, after) => (c :: text, after)
termination_by text => text.length
decreasing_by
  · exact Nat.lt_succ_of_le (Nat.le_succ_of_le (List.dropWhile_sublist _).length_le)
  · exact Nat.lt_succ_of_lt (unescape?_length _h)
  · simp

/-- **Reading a quoted text** from its opening quote on. -/
def unquote? : Text → Option (Text × Text)
  | '"' :: rest => readQuoted? rest
  | _ => none

end EnumCodegen.Text
