import EnumCodegen.Text.CharClass.Alphanumeric
import EnumCodegen.Text.CharClass.Lowercase
import EnumCodegen.Text.CharClass.LowerMap
import EnumCodegen.Text.CharClass.Unprintable
import EnumCodegen.Text.CharClass.Uppercase
import EnumCodegen.Text.CharClass.UpperMap
import EnumCodegen.Text.CharClass.WhiteSpace

/-!
# Classes of characters and the case of a character

The character classes of Unicode that names, comments and literals depend on. Each is given by a
rule of its own on ASCII and by the table of its change points beyond; so facts about ASCII names
never open a table.

## Main definitions

* `isAlphanumeric`, `isUppercase`, `isLowercase`: what makes up words, and their case
* `isWhiteSpace`: what is trimmed from names and comments
* `isPrintable`: what stands unescaped in a string literal
* `uppercased`, `lowercased`: the other case of a character, which may take several characters

## Main results

* `isAlphanumeric_ascii`, `isUppercase_ascii`, `isLowercase_ascii`: the rules on ASCII
* `uppercased_ascii`, `lowercased_ascii`: the case of an ASCII letter
-/

namespace EnumCodegen.CharClass

/-- **Membership by change points**: whether a number has an odd count of change points at or below
it, the list being increasing. -/
def inside : List Nat → Nat → Bool
  | [], _ => false
  | bound :: bounds, n => if n < bound then false else !inside bounds n

/-- Whether the character is ASCII. -/
def isAscii (c : Char) : Bool :=
  c.toNat < 128

/-- **Letters and numbers**: the characters of which words are made. -/
def isAlphanumeric (c : Char) : Bool :=
  if isAscii c then c.isAlphanum else inside alphanumericBounds c.toNat

/-- **Upper-case characters**. -/
def isUppercase (c : Char) : Bool :=
  if isAscii c then c.isUpper else inside uppercaseBounds c.toNat

/-- **Lower-case characters**. -/
def isLowercase (c : Char) : Bool :=
  if isAscii c then c.isLower else inside lowercaseBounds c.toNat

/-- **White space**: on ASCII the space and the controls from tab to carriage return. -/
def isWhiteSpace (c : Char) : Bool :=
  if isAscii c then c == ' ' || (9 ≤ c.toNat && c.toNat ≤ 13) else inside whiteSpaceBounds c.toNat

/-- **Printable characters**: those that show as themselves wherever they stand. -/
def isPrintable (c : Char) : Bool :=
  if isAscii c then 32 ≤ c.toNat && c.toNat ≤ 126 else !inside unprintableBounds c.toNat

/-- The case mapping beyond ASCII: an expansion if the character has one, else the first run that
covers it, else the character itself. -/
def mapped (expansions : List (Nat × List Nat)) (runs : List CaseRun) (c : Char) : List Char :=
  match expansions.lookup c.toNat with
  | some images => images.map Char.ofNat
  | none =>
    match runs.findSome? (·.image? c.toNat) with
    | some image => [Char.ofNat image]
    | none => [c]

/-- **The upper case** of a character. -/
def uppercased (c : Char) : List Char :=
  if isAscii c then [c.toUpper] else mapped upperExpansions upperRuns c

/-- **The lower case** of a character. -/
def lowercased (c : Char) : List Char :=
  if isAscii c then [c.toLower] else mapped lowerExpansions lowerRuns c

@[simp] theorem isAlphanumeric_ascii {c : Char} (h : isAscii c = true) :
    isAlphanumeric c = c.isAlphanum := by simp [isAlphanumeric, h]

@[simp] theorem isUppercase_ascii {c : Char} (h : isAscii c = true) :
    isUppercase c = c.isUpper := by simp [isUppercase, h]

@[simp] theorem isLowercase_ascii {c : Char} (h : isAscii c = true) :
    isLowercase c = c.isLower := by simp [isLowercase, h]

@[simp] theorem uppercased_ascii {c : Char} (h : isAscii c = true) :
    uppercased c = [c.toUpper] := by simp [uppercased, h]

@[simp] theorem lowercased_ascii {c : Char} (h : isAscii c = true) :
    lowercased c = [c.toLower] := by simp [lowercased, h]

end EnumCodegen.CharClass
