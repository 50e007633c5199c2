import EnumCodegen.Notice
import EnumCodegen.Schema.Basic

/-!
# Enums in GraphQL

An enum is declared in GraphQL by its flat name and the wire names of its values. Comments become
descriptions, which are block strings: a triple quote inside is escaped, and a comment of several
lines stands on lines of its own.

## Main definitions

* `GraphQL.descriptionLines`: the written form of a comment
* `GraphQL.declarationText`: the declaration of an enum
* `GraphQL.isReserved`: the names that no value may have
* `GraphQL.declarationNotices`: what there is to report about a declaration
-/

namespace EnumCodegen.GraphQL

/-- **The names that no value of an enum may have.** -/
def reservedNames : List Text :=
  ["true", "false", "null"]

/-- Whether no value of an enum may have the name. -/
def isReserved (name : Text) : Bool :=
  reservedNames.contains name

/-- The delimiter of a block string. -/
def tripleQuote : Text :=
  "\"\"\""

/-- **Escaping for a block string**: a backslash before every triple quote, from the left. -/
def escapeBlock : Text → Text
  | '"' :: '"' :: '"' :: rest => '\\' :: '"' :: '"' :: '"' :: escapeBlock rest
  | c :: rest => c :: escapeBlock rest
  | [] => []

/-- **The description** that a comment becomes, at an indentation. -/
def descriptionLines (indentation comment : Text) : List Text :=
  let content := escapeBlock comment
  if '\n' ∈ content then
    [indentation ++ tripleQuote] ++ content.lines.map (indentation ++ ·) ++
      [indentation ++ tripleQuote]
  else [indentation ++ tripleQuote ++ content ++ tripleQuote]

/-- The description that an optional comment becomes. -/
def commentLines (indentation : Text) : Option Text → List Text
  | some comment => descriptionLines indentation comment
  | none => []

/-- The name of a value in the declaration: its wire name. -/
def memberName (names : WireNames) (value : DeclaredValue) : Text :=
  (names.wireName? value.name).getD value.name

/-- The members of the declaration, in order. -/
def members (enum : DeclaredEnum) : List Text :=
  enum.values.map (memberName enum.wireNames)

/-- The lines of the declaration. -/
def declarationLines (enum : DeclaredEnum) : List Text :=
  let names := enum.wireNames
  commentLines [] enum.comment? ++
    ["enum " ++ enum.flatTypeName ++ " \x7b"] ++
    (enum.values.flatMap fun value =>
      commentLines "  " value.comment? ++ ["  " ++ memberName names value]) ++
    ["\x7d".toList]

/-- **The declaration of an enum.** -/
def declarationText (enum : DeclaredEnum) : Text :=
  ['\n'].intercalate (declarationLines enum)

/-- **What there is to report about a declaration**: its members with reserved names. -/
def declarationNotices (enum : DeclaredEnum) : List Notice :=
  ((members enum).filter isReserved).map (.reservedValue enum.flatTypeName)

end EnumCodegen.GraphQL
