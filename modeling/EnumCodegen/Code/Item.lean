import EnumCodegen.Text.Quoted
import EnumCodegen.Text.RawLiteral
import EnumCodegen.XmlNode

/-!
# Items of generated code

Generated code is a sequence of items: for each enum the implementation of a text format's trait and
a module of adapters, for each enum field a binding, and constants that hold text. This module says
what the items are made of and how they are written.

## Main definitions

* `TextFormat`: the formats in which an enum travels as text
* `Arm`, `TraitImpl`: the implementation of a format's trait for an enum
* `AdapterModule`: the functions by which numbers of an enum are written and read
* `FieldBinding`: the XML node of a field and the adapter that serves it
* `TextConstant`: a constant text
* `Item.lines`: the written form of an item
* `Code.text`: the text of some lines
-/

namespace EnumCodegen

/-- **The formats in which an enum travels as text** under its wire names. -/
inductive TextFormat where
  | xml
  | json
  deriving Repr, DecidableEq

namespace TextFormat

/-- The name of the format in comments. -/
def label : TextFormat → Text
  | xml => "XML"
  | json => "JSON"

/-- The name of the format in identifiers, of the adapter modules and of the module that serves
them. -/
def tag : TextFormat → Text
  | xml => "xml"
  | json => "json"

/-- The trait that an enum implements for the format. -/
def traitName : TextFormat → Text
  | xml => "XmlEnum"
  | json => "JsonEnum"

/-- The method that gives a wire name. -/
def nameMethod (format : TextFormat) : Text :=
  format.tag ++ "_name"

/-- The function that finds the value with a wire name. -/
def ofNameFunction (format : TextFormat) : Text :=
  "from_" ++ format.tag ++ "_name"

end TextFormat

/-- **An arm of a match on text**: the text it matches and the text it gives. -/
structure Arm where
  input : Text
  output : Text
  deriving Repr, DecidableEq

/-- **The implementation of a format's trait**: the arms by which declared names become wire names,
every other name staying as it is, and the arms by which text becomes a declared name, every other
text being refused. -/
structure TraitImpl where
  format : TextFormat
  typePath : Text
  enumName : Text
  toWire : List Arm
  ofWire : List Arm
  deriving Repr, DecidableEq

/-- **A module of adapters**: the functions that write and read numbers of an enum, optional numbers
and lists of numbers. -/
structure AdapterModule where
  format : TextFormat
  name : Text
  typePath : Text
  deriving Repr, DecidableEq

/-- **The binding of a field**: its XML node, and the path of the adapter that serves it. -/
structure FieldBinding where
  name : Text
  messagePath : List Text
  field : Text
  node : XmlNode
  adapter : Text
  deriving Repr, DecidableEq

/-- **A constant text**, with the sentence that documents it. -/
structure TextConstant where
  name : Text
  doc : Text
  value : Text
  deriving Repr, DecidableEq

/-- **An item** of generated code. -/
inductive Item where
  | traitImpl (impl : TraitImpl)
  | adapter (adapters : AdapterModule)
  | binding (binding : FieldBinding)
  | constant (constant : TextConstant)
  deriving Repr, DecidableEq

namespace Code

/-- **The text of some lines**, each ended by a line feed. -/
def text (lines : List Text) : Text :=
  lines.flatMap (· ++ ['\n'])

@[simp] theorem text_nil : text [] = [] := rfl

@[simp] theorem text_cons (line : Text) (lines : List Text) :
    text (line :: lines) = line ++ '\n' :: text lines := by
  simp [text]

@[simp] theorem text_append (lines lines' : List Text) :
    text (lines ++ lines') = text lines ++ text lines' := by
  simp [text]

/-- A line one level further in; an empty line stays empty. -/
def indented (line : Text) : Text :=
  if line.isEmpty then line else "    " ++ line

/-- A block of lines between braces, behind its head. -/
def block (head : Text) (body : List Text) (close : Text) : List Text :=
  (head ++ " \x7b") :: body.map indented ++ [close]

/-- A public module. Its name is exempt from the rule on names if a level separator occurs in it. -/
def moduleBlock (name : Text) (body : List Text) : List Text :=
  (if Text.holds "__" name then ["#[allow(non_snake_case)]".toList] else []) ++
    block ("pub mod " ++ name) body "\x7d"

/-- **The written form of an arm.** -/
def armLine (arm : Arm) : Text :=
  arm.input.quoted ++ " => " ++ arm.output.quoted ++ ","

/-- The pair of functions that write and read the values of a field, delegating to a module. The
value is written from a reference and read as owned. -/
def functionLines (serving typePath reference owned : Text) : List Text :=
  [ "pub fn serialize<S>(value: " ++ reference ++
      ", serializer: S) -> ::core::result::Result<S::Ok, S::Error>",
    "where",
    "    S: ::enumwire_runtime::serde::Serializer,",
    "\x7b",
    "    " ++ serving ++ "::serialize::<" ++ typePath ++ ", S>(value, serializer)",
    "\x7d",
    "",
    "pub fn deserialize<'de, D>(deserializer: D) -> ::core::result::Result<" ++ owned ++
      ", D::Error>",
    "where",
    "    D: ::enumwire_runtime::serde::Deserializer<'de>,",
    "\x7b",
    "    " ++ serving ++ "::deserialize::<" ++ typePath ++ ", D>(deserializer)",
    "\x7d" ]

end Code

open Code

/-- **The written form of a trait implementation.** -/
def TraitImpl.lines (impl : TraitImpl) : List Text :=
  let toWire : List Text :=
    -- a match with nothing but its last arm would be idle
    if impl.toWire.isEmpty then ["self.as_str_name()"]
    else
      block "match self.as_str_name()" (impl.toWire.map armLine ++ ["other => other,".toList])
        "\x7d"
  let ofWire : List Text :=
    block "let declared = match name"
      (impl.ofWire.map armLine ++ ["_ => return ::core::option::Option::None,".toList]) "\x7d;" ++
    ["Self::from_str_name(declared)".toList]
  block ("impl ::enumwire_runtime::" ++ impl.format.traitName ++ " for " ++ impl.typePath)
    ([("const ENUM_NAME: &'static str = " ++ impl.enumName.quoted ++ ";" : Text), []] ++
      block ("fn " ++ impl.format.nameMethod ++ "(&self) -> &'static str") toWire "\x7d" ++
      [[]] ++
      block ("fn " ++ impl.format.ofNameFunction ++
        "(name: &str) -> ::core::option::Option<Self>") ofWire "\x7d")
    "\x7d"

/-- **The written form of a module of adapters.** -/
def AdapterModule.lines (adapters : AdapterModule) : List Text :=
  let serving : Text := "::enumwire_runtime::" ++ adapters.format.tag
  let part (name reference owned : Text) : List Text :=
    block ("pub mod " ++ name)
      (functionLines (serving ++ "::" ++ name) ("super::super::" ++ adapters.typePath) reference owned)
      "\x7d"
  [("/// Serde adapter for `i32` fields holding [`" ++ adapters.typePath ++ "`] as " ++
      adapters.format.label ++ " wire names." : Text)] ++
    moduleBlock adapters.name
      (functionLines serving ("super::" ++ adapters.typePath) "&i32" "i32" ++
        [[]] ++
        part "option" "&::core::option::Option<i32>" "::core::option::Option<i32>" ++
        [[]] ++
        part "vec" "&[i32]" "::std::vec::Vec<i32>")

/-- What kind of XML node a field has, in words. -/
def XmlNode.kind : XmlNode → Text
  | element _ => "element"
  | «attribute» _ => "attribute"

/-- The expression for an XML node. -/
def XmlNode.expression : XmlNode → Text
  | element name => "Element(" ++ name.quoted ++ ")"
  | «attribute» name => "Attribute(" ++ name.quoted ++ ")"

/-- **The written form of a field's binding.** -/
def FieldBinding.lines (binding : FieldBinding) : List Text :=
  [("/// `" ++ ['.'].intercalate binding.messagePath ++ "." ++ binding.field ++
      "` travels as the XML " ++ binding.node.kind ++ " `" ++ binding.node.name ++ "`." : Text)] ++
    moduleBlock binding.name
      [ "pub const XML_NODE: ::enumwire_runtime::XmlNode = ::enumwire_runtime::XmlNode::" ++
          binding.node.expression ++ ";",
        [],
        "pub use super::" ++ binding.adapter ++ "::\x7bdeserialize, serialize\x7d;" ]

/-- **The written form of a constant.** -/
def TextConstant.lines (constant : TextConstant) : List Text :=
  [ "/// " ++ constant.doc,
    "pub const " ++ constant.name ++ ": &str = " ++ constant.value.rawLiteral ++ ";" ]

/-- **The written form of an item.** -/
def Item.lines : Item → List Text
  | traitImpl i => i.lines
  | adapter a => a.lines
  | binding b => b.lines
  | constant c => c.lines

end EnumCodegen
