import EnumCodegen.Document.Json
import EnumCodegen.Xml.Cursor

/-!
# Documents in XML

A document is an element with its attributes first and then an element for every other value; the
element of an optional field without value is left out, and a list has an element for each of its
items. The name of the outermost element is not checked when a document is read. Unknown attributes,
elements and texts are ignored. The elements of a list have to follow one another, and text between
them or right behind them is an item too. The element of an optional field may say that it holds
nothing, and so may the outermost for all of them.

## Main definitions

* `DocumentType.writeXml`: a document as text
* `DocumentType.readXml`: a document from text
-/

namespace EnumCodegen

open Xml

/-! ## Writing -/

/-- The strings that a JSON value holds. -/
def heldStrings : Json → List Text
  | .string text => [text]
  | .list items => items.flatMap fun
    | .string text => [text]
    | _ => []
  | _ => []

/-- An element with text as content. -/
def elementText (name content : Text) : Text :=
  if content.isEmpty then '<' :: name ++ "/>"
  else '<' :: name ++ ">" ++ escapeText content ++ "</" ++ name ++ ">"

/-- The attribute for a field, if it is one. -/
def attributeText (field : DocumentField) (value : Json) : Text :=
  match field.node with
  | .attribute name =>
    (heldStrings value).flatMap fun text => ' ' :: name ++ "=\"" ++ escapeValue text ++ "\""
  | .element _ => []

/-- The elements for a field, unless it is an attribute. -/
def elementsText (field : DocumentField) (value : Json) : Text :=
  match field.node with
  | .attribute _ => []
  | .element name => (heldStrings value).flatMap (elementText name)

/-- **A document as XML text.** -/
def DocumentType.writeXml (type : DocumentType) (document : Document) : Except DocumentError Text := do
  let values ← (type.fields.zip document).mapM fun (field, value) =>
    (Adapter.write field value).map (field, ·)
  let head := '<' :: type.name ++ values.flatMap fun (field, value) => attributeText field value
  let content := values.flatMap fun (field, value) => elementsText field value
  return if content.isEmpty then head ++ "/>" else head ++ ">" ++ content ++ "</" ++ type.name ++ ">"

/-! ## Reading -/

/-- The place to go on from, if there is one. -/
def expectPlace {Place : Type} : Option Place → Except DocumentError Place
  | some place => .ok place
  | none => .error .malformed

/-- The text of an element, from behind its start, and the place behind its end. Elements inside are
not allowed. -/
def readElementText (cursor : Cursor) : Except DocumentError (Text × Cursor) := do
  let (encounter, cursor) ← expectPlace cursor.next?
  match encounter with
  | .closed => return ([], cursor)
  | .text text =>
    match ← expectPlace cursor.next? with
    | (.closed, cursor) => return (text, cursor)
    | _ => throw .malformed
  | .opened .. => throw .malformed

/-- **The items of a list**: the texts of the elements with a name that follow one another, and the
texts between and behind them; and the place behind, given as many steps as it may take. -/
def readItems (name : Text) : Nat → Cursor → Except DocumentError (List Text × Cursor)
  | 0, _ => .error .malformed
  | steps + 1, cursor => do
    let (encounter, inside) ← expectPlace cursor.next?
    match encounter with
    | .closed => return ([], cursor)
    | .text text =>
      let (texts, cursor) ← readItems name steps inside
      return (text :: texts, cursor)
    | .opened other _ =>
      if other = name then
        let (text, cursor) ← readElementText inside
        let (texts, cursor) ← readItems name steps cursor
        return (text :: texts, cursor)
      else return ([], cursor)

/-- **What the elements of a field hold**, and the place behind them, from before and from behind the
start of the first. The outermost element and this one may say that an optional field has no value. -/
def readHeld (field : DocumentField) (outermost name attributes : Text) (cursor inside : Cursor) :
    Except DocumentError (Json × Cursor) :=
  match field.kind with
  | .enum _ .repeated => do
    let (texts, cursor) ← readItems name (cursor.ahead.length + 1) cursor
    return (.list (texts.map .string), cursor)
  | .enum _ .optional => do
    let scope := inside.scopeAhead
    if scope.marksAbsence outermost || scope.marksAbsence attributes then
      return (.null, ← expectPlace (inside.skipElement? name))
    else
      let (text, cursor) ← readElementText inside
      return (.string text, cursor)
  | _ => do
    let (text, cursor) ← readElementText inside
    return (.string text, cursor)

/-- Refusing a field that has a value already. -/
def expectNew (values : ReadValues) (key : Text) : Except DocumentError Unit :=
  if (values.lookup key).isSome then .error (.duplicate key) else .ok ()

/-- **Reading attributes**: the values of those that belong to fields, added to those read. -/
def readAttributes (fields : List DocumentField) (values : ReadValues) :
    List Attribute → Except DocumentError ReadValues
  | [] => .ok values
  | none :: _ => .error .malformed
  | some (name, raw) :: rest =>
    let key := attributeKey name
    match fields.find? (·.node.key = key) with
    | some field => do
      expectNew values key
      match unescape? raw with
      | some text =>
        let value ← Adapter.read .xml field (.string text)
        readAttributes fields (values ++ [(key, value)]) rest
      | none => throw .malformed
    | none => readAttributes fields values rest

/-- **Reading elements** up to the end of the outermost, by what stands behind the name in its start
tag: the values of those that belong to fields, added to those read, given as many steps as it may
take. -/
def readElements (fields : List DocumentField) (outermost : Text) :
    Nat → ReadValues → Cursor → Except DocumentError ReadValues
  | 0, _, _ => .error .malformed
  | steps + 1, values, cursor => do
    let (encounter, inside) ← expectPlace cursor.next?
    match encounter with
    | .closed => return values
    | .text _ => readElements fields outermost steps values inside
    | .opened name attributes =>
      let key := localName name
      match fields.find? (·.node.key = key) with
      | some field =>
        expectNew values key
        let (held, cursor) ← readHeld field outermost name attributes cursor inside
        let value ← Adapter.read .xml field held
        readElements fields outermost steps (values ++ [(key, value)]) cursor
      | none =>
        readElements fields outermost steps values (← expectPlace (inside.skipElement? name))

/-- **A document from XML text.** What follows the outermost element is not looked at. -/
def DocumentType.readXml (type : DocumentType) (text : Text) : Except DocumentError Document := do
  let (encounter, inside) ← expectPlace (Cursor.start text).next?
  match encounter with
  | .opened _ behindName =>
    let values ← readAttributes type.fields [] (attributes behindName)
    let values ← readElements type.fields behindName (inside.ahead.length + 1) values inside
    completed type.fields (·.node.key) values
  | .text text => throw (.wrongType (Adapter.found (.string text)) ("struct " ++ type.name))
  | .closed => throw .malformed

end EnumCodegen
