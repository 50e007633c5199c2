import EnumCodegen.Text.Basic
import EnumCodegen.Text.Words

/-!
# Case styles

The written forms of a name in the case styles that generated code uses: each joins the words of
the name, after putting every word into one case.

## Main definitions

* `Text.uppercase`, `Text.lowercase`, `Text.capitalize`: the case of one word
* `Text.upperSnake`, `Text.snake`, `Text.upperCamel`: the styles
-/

namespace EnumCodegen.Text

open CharClass

/-- Every character in upper case. -/
def uppercase (text : Text) : Text :=
  text.flatMap uppercased

/-- Every character in lower case. A capital sigma that ends the word becomes the final sigma. -/
def lowercase : Text → Text
  | [] => []
  | [c] => if c = 'Σ' then ['ς'] else lowercased c
  | c :: rest => lowercased c ++ lowercase rest

/-- The first character in upper case and the others in lower case. -/
def capitalize : Text → Text
  | [] => []
  | c :: rest => uppercased c ++ lowercase rest

/-- **`UPPER_SNAKE`**: the words in upper case between underscores. -/
def upperSnake (name : Text) : Text :=
  ['_'].intercalate ((words name).map uppercase)

/-- **`snake`**: the words in lower case between underscores. -/
def snake (name : Text) : Text :=
  ['_'].intercalate ((words name).map lowercase)

/-- **`UpperCamel`**: the capitalized words without separator. -/
def upperCamel (name : Text) : Text :=
  (words name).flatMap capitalize

end EnumCodegen.Text
