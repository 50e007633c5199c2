import EnumCodegen.Json.Value
import EnumCodegen.Number.Shortest

/-!
# The written form of JSON values

JSON is written compactly: no white space, and escapes only where the format demands them.

## Main definitions

* `Json.escaped`, `Json.quoted`: the written form of a character and of a string
* `Json.written`: the written form of a value
-/

namespace EnumCodegen.Json

/-- The hexadecimal digits of a control character, with leading zeros. -/
def fourDigits (n : Nat) : Text :=
  let digits := Text.hexadecimal n
  List.replicate (4 - digits.length) '0' ++ digits

/-- **The written form of a character** in a string. -/
def escaped (c : Char) : Text :=
  if c = '"' then "\\\""
  else if c = '\\' then "\\\\"
  else if c = '\n' then "\\n"
  else if c = '\r' then "\\r"
  else if c = '\t' then "\\t"
  else if c = Char.ofNat 8 then "\\b"
  else if c = Char.ofNat 12 then "\\f"
  else if c.toNat < 32 then "\\u" ++ fourDigits c.toNat
  else [c]

/-- **The written form of a string.** -/
def quoted (text : Text) : Text :=
  '"' :: text.flatMap escaped ++ ['"']

mutual

/-- **The written form of a value.** -/
def written : Json → Text
  | null => "null"
  | boolean true => "true"
  | boolean false => "false"
  | integer n => Text.signedNumeral n
  | float x => x.written
  | string text => quoted text
  | list [] => "[]"
  | list (item :: items) => '[' :: (written item ++ writtenItems items)
  | object [] => "\x7b\x7d"
  | object ((name, value) :: members) =>
    '\x7b' :: (quoted name ++ ':' :: (written value ++ writtenMembers members))

/-- The written form of further items of a list, up to its end. -/
def writtenItems : List Json → Text
  | [] => [']']
  | item :: items => ',' :: (written item ++ writtenItems items)

/-- The written form of further members of an object, up to its end. -/
def writtenMembers : List (Text × Json) → Text
  | [] => ['\x7d']
  | (name, value) :: members =>
    ',' :: (quoted name ++ ':' :: (written value ++ writtenMembers members))

end

end EnumCodegen.Json
