import EnumCodegen.Text.Basic

/-!
# Character references and escapes

In XML text a reference stands for a character: by one of five names, or by the number of a code point.

## Main definitions

* `Xml.reference?`: the character a reference stands for
* `Xml.unescape?`: a text with its references replaced
* `Xml.escapeText`, `Xml.escapeValue`: a text as content of an element and as value of an attribute
-/

namespace EnumCodegen.Xml

/-- The names of characters. -/
def named? (name : Text) : Option Char :=
  if name = "lt" then some '<'
  else if name = "gt" then some '>'
  else if name = "amp" then some '&'
  else if name = "apos" then some '\''
  else if name = "quot" then some '"'
  else none

/-- The value of a digit in a base of at most sixteen. -/
def digit? (base : Nat) (c : Char) : Option Nat :=
  (Text.hexDigit? c).filter (· < base)

/-- The number that digits write. -/
def digits? (base : Nat) (text : Text) : Option Nat :=
  if text.isEmpty then none
  else text.foldlM (fun n c => (digit? base c).map (n * base + ·)) 0

/-- The character with a number, which is not zero. -/
def numbered? (number : Text) : Option Char :=
  let code? :=
    match number with
    | 'x' :: hexadecimal => digits? 16 hexadecimal
    | decimal => digits? 10 decimal
  code?.bind fun code => if code ≠ 0 ∧ code.isValidChar then some (Char.ofNat code) else none

/-- **The character a reference stands for**, by what is between ampersand and semicolon. -/
def reference? : Text → Option Char
  | '#' :: number => numbered? number
  | name => named? name

/-- Replaces references, given what was read of one that is not yet closed. -/
def unescapeFrom? : Option Text → Text → Option Text
  | none, [] => some []
  | some _, [] => none
  | none, c :: rest =>
    if c = '&' then unescapeFrom? (some []) rest else (unescapeFrom? none rest).map (c :: ·)
  | some name, c :: rest =>
    if c = ';' then
      match reference? name with
      | some meant => (unescapeFrom? none rest).map (meant :: ·)
      | none => none
    else if c = '&' then none
    else unescapeFrom? (some (name ++ [c])) rest

/-- **A text with its references replaced**, if all of them are good. -/
def unescape? (text : Text) : Option Text :=
  unescapeFrom? none text

/-- The written form of a character as content of an element. -/
def escapedInText (c : Char) : Text :=
  if c = '<' then "&lt;" else if c = '>' then "&gt;" else if c = '&' then "&amp;" else [c]

/-- **A text as content of an element.** -/
def escapeText (text : Text) : Text :=
  text.flatMap escapedInText

/-- **A text as value of an attribute.** -/
def escapeValue (text : Text) : Text :=
  text.flatMap fun c => if c = '"' then "&quot;" else escapedInText c

end EnumCodegen.Xml
