import EnumCodegen.Text.Casing

/-!
# Identifiers of generated code

Generated code names the types that the message compiler generates for the same schema, so it
follows its conventions: a message becomes a module in `snake` case and an enum a type in
`UpperCamel` case, and a keyword is escaped. Helper items of nested enums have flat names, whose
levels a double underscore separates; no single level ever contains one.

## Main definitions

* `Identifier.escaped`: an identifier that is no keyword
* `Identifier.ofMessage`, `Identifier.ofEnum`, `Identifier.typePath`: modules, types and their paths
* `Identifier.flatSnake`, `Identifier.flatUpperSnake`: the flat names of nested items
-/

namespace EnumCodegen.Identifier

/-- The keywords that may be written as raw identifiers. -/
def keywords : List Text :=
  List.map String.toList
   ["as", "async", "await", "break", "const", "continue", "dyn", "else", "enum", "extern", "false",
    "fn", "for", "if", "impl", "in", "let", "loop", "match", "mod", "move", "mut", "pub", "ref",
    "return", "static", "struct", "trait", "true", "type", "unsafe", "use", "where", "while",
    "abstract", "become", "box", "do", "final", "gen", "macro", "override", "priv", "try", "typeof",
    "unsized", "virtual", "yield"]

/-- The keywords with a meaning in paths, which may not be written as raw identifiers. -/
def pathKeywords : List Text :=
  ["self", "super", "crate", "Self"]

/-- **Escaping**: a keyword becomes a raw identifier, or takes a trailing underscore where it may
not. -/
def escaped (ident : Text) : Text :=
  if ident ∈ pathKeywords then ident ++ ['_']
  else if ident ∈ keywords then 'r' :: '#' :: ident
  else ident

/-- **The module** of a message. -/
def ofMessage (message : Text) : Text :=
  escaped (Text.snake message)

/-- **The type** of an enum. -/
def ofEnum (enum : Text) : Text :=
  escaped (Text.upperCamel enum)

/-- **The path of a type** from the modules of the messages around it, outermost first. -/
def typePath (nesting : List Text) (enum : Text) : Text :=
  [':', ':'].intercalate (nesting.map ofMessage ++ [ofEnum enum])

/-- What separates the levels of a flat name. -/
def levelSeparator : Text :=
  ['_', '_']

/-- **The flat name** of a nested item in `snake` case. Keywords stay as they are, for a suffix
always follows. -/
def flatSnake (nesting : List Text) (name : Text) : Text :=
  levelSeparator.intercalate ((nesting ++ [name]).map Text.snake)

/-- **The flat name** of a nested item in upper case. -/
def flatUpperSnake (nesting : List Text) (name : Text) : Text :=
  Text.uppercase (flatSnake nesting name)

end EnumCodegen.Identifier
