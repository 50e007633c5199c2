/-!
# Text

Everything the generator reads or writes is a sequence of characters. Cutting, joining and
searching come from the library of lists; this module adds lines, trimming, numerals and the
search for a passage.

## Main definitions

* `Text`: a sequence of characters
* `Text.lines`: the lines of a text
* `Text.isBlank`: the class of blanks
* `Text.trimmed`: a text without the characters of a class at its ends
* `Text.holds`: whether a passage occurs in a text
* `Text.numeral`, `Text.signedNumeral`, `Text.hexadecimal`: numbers as text
* `Text.hexDigit?`: the value of a hexadecimal digit

## Main results

* `Text.holds_iff_isInfix`: a passage occurs in a text exactly when it is an infix of it
-/

namespace EnumCodegen

/-- **Text**: a sequence of characters. -/
abbrev Text := List Char

instance : Coe String Text := ⟨String.toList⟩

namespace Text

/-- A line without the carriage return that may end it. -/
def withoutReturn (line : Text) : Text :=
  if line.getLast? = some '\r' then line.dropLast else line

/-- **Lines**: the pieces between line feeds. A carriage return before a line feed belongs to the
line end, and a line feed at the very end starts no further line. -/
def lines (text : Text) : List Text :=
  let pieces := text.splitOn '\n'
  let final := pieces.getLastD []
  pieces.dropLast.map withoutReturn ++ (if final.isEmpty then [] else [final])

/-- **A blank** between the parts of code, of markup and of documents. -/
def isBlank (c : Char) : Bool :=
  c = ' ' ∨ c = '\t' ∨ c = '\n' ∨ c = '\r'

/-- The text from its first character outside the class on. -/
def trimmedStart (drop : Char → Bool) (text : Text) : Text :=
  text.dropWhile drop

/-- The text up to its last character outside the class. -/
def trimmedEnd (drop : Char → Bool) (text : Text) : Text :=
  (text.reverse.dropWhile drop).reverse

/-- **Trimming**: the text without the characters of the class at either end. -/
def trimmed (drop : Char → Bool) (text : Text) : Text :=
  trimmedEnd drop (trimmedStart drop text)

/-- **Occurrence**: whether the passage stands somewhere in the text. -/
def holds (passage : Text) : Text → Bool
  | [] => passage.isEmpty
  | c :: rest => passage.isPrefixOf (c :: rest) || holds passage rest

/-- A passage occurs in a text exactly when it is an infix of it. -/
theorem holds_iff_isInfix {passage text : Text} : holds passage text = true ↔ passage <:+: text := by
  induction text with
  | nil => simp [holds]
  | cons c rest ih => simp [holds, ih, List.infix_cons_iff]

/-- **Decimal digits** of a natural number. -/
def numeral (n : Nat) : Text :=
  Nat.toDigits 10 n

/-- Decimal digits of an integer, behind a minus sign if it is negative. -/
def signedNumeral : Int → Text
  | .ofNat n => numeral n
  | .negSucc n => '-' :: numeral (n + 1)

/-- **Hexadecimal digits** of a natural number, in lower case and without leading zeros. -/
def hexadecimal (n : Nat) : Text :=
  Nat.toDigits 16 n

/-- The value of a hexadecimal digit, in either case. -/
def hexDigit? (c : Char) : Option Nat :=
  if c.isDigit then some (c.toNat - '0'.toNat)
  else if 'a' ≤ c ∧ c ≤ 'f' then some (c.toNat - 'a'.toNat + 10)
  else if 'A' ≤ c ∧ c ≤ 'F' then some (c.toNat - 'A'.toNat + 10)
  else none

end Text

end EnumCodegen
