import EnumCodegen.Text.Basic

/-!
# Output modes

Generated code comes in three encodings, each requested by a token of the parameter and written to
files of its own.

## Main definitions

* `Mode`: the encodings
* `Mode.token`, `Mode.ofToken?`: the name of a mode in the parameter
* `Mode.fileSuffix`: what ends the names of its files

## Main results

* `Mode.ofToken?_token`: reading a token gives back the mode it names
-/

namespace EnumCodegen

/-- **Output modes**: the encodings for which code is generated. -/
inductive Mode where
  | xml
  | json
  | graphQL
  deriving Repr, DecidableEq

namespace Mode

/-- Every mode, in the order in which they are documented. -/
def all : List Mode :=
  [.xml, .json, .graphQL]

/-- **The token** that requests the mode. -/
def token : Mode → Text
  | xml => "xml"
  | json => "json"
  | graphQL => "gql"

/-- The mode that a token requests. -/
def ofToken? (token : Text) : Option Mode :=
  all.find? (·.token = token)

/-- **The suffix** of the mode's files, put in place of the schema file's extension. -/
def fileSuffix (mode : Mode) : Text :=
  ".enums." ++ mode.token ++ ".rs"

@[simp] theorem ofToken?_token (mode : Mode) : ofToken? mode.token = some mode := by
  cases mode <;> decide

@[simp] theorem mem_all (mode : Mode) : mode ∈ all := by
  cases mode <;> decide

end Mode

end EnumCodegen
