import EnumCodegen.Xml.Markup
import EnumCodegen.Xml.Reference

/-!
# Parts of a document

For a reader a document consists of starts and ends of elements, of texts between them, and of type
declarations. Texts and sections of plain characters that follow one another are one text; white space
around it goes, unless it stands in such a section. Attributes are read one by one; behind one that is
not well formed the reading goes on where another may begin.

## Main definitions

* `Xml.Part`, `Xml.parts`: the parts of a document
* `Xml.Attribute`, `Xml.attributes`, `Xml.attributesWithRepeats`: the attributes of a start tag
* `Xml.localName`, `Xml.attributeKey`: names without namespace
-/

namespace EnumCodegen.Xml

open Text (isBlank)

/-- **A part of a document.** A text with a bad reference has no value; text of white space alone is
blank. -/
inductive Part where
  | opened (name attributes : Text)
  | closed
  | text (value? : Option Text)
  | blank
  | declaration
  | broken
  deriving Repr, DecidableEq

/-- The pieces of a text without those that are blank before anything else. -/
def withoutBlankStart : List Markup → List Markup
  | .text raw :: rest =>
    if raw.all isBlank then withoutBlankStart rest else .text (raw.dropWhile isBlank) :: rest
  | pieces => pieces

/-- The value of the pieces of a text. The last is trimmed at its end. -/
def joinedValue? : List Markup → Option Text
  | [] => some []
  | piece :: rest => do
    let value ←
      match piece with
      | .text raw => unescape? (if rest.isEmpty then Text.trimmedEnd isBlank raw else raw)
      | .plain text => some text
      | _ => some []
    return value ++ (← joinedValue? rest)

/-- The text that pieces make up, if any. -/
def textPart (pieces : List Markup) : List Part :=
  match withoutBlankStart pieces with
  | [] => if pieces.isEmpty then [] else [.blank]
  | kept => [.text (joinedValue? kept)]

/-- The parts that markup makes up, given the pieces of a text that may go on. -/
def partsFrom (pieces : List Markup) : List Markup → List Part
  | [] => textPart pieces
  | .text raw :: rest => partsFrom (pieces ++ [.text raw]) rest
  | .plain text :: rest => partsFrom (pieces ++ [.plain text]) rest
  | .opened name attributes :: rest =>
    textPart pieces ++ .opened name attributes :: partsFrom [] rest
  | .closed :: rest => textPart pieces ++ .closed :: partsFrom [] rest
  | .declaration :: rest => textPart pieces ++ .declaration :: partsFrom [] rest
  | .broken :: rest => textPart pieces ++ .broken :: partsFrom [] rest

/-- **The parts of a document.** -/
def parts (text : Text) : List Part :=
  partsFrom [] (markup text)

/-- A name without the namespace before its first colon. -/
def localName (name : Text) : Text :=
  match name.dropWhile (· ≠ ':') with
  | ':' :: rest => rest
  | _ => name

/-- **The key of an attribute**: its name without namespace behind an `@`. The declaration of a
namespace keeps its whole name. -/
def attributeKey (name : Text) : Text :=
  '@' ::
    match List.isPrefixOf? "xmlns".toList name with
    | some [] | some (':' :: _) => name
    | _ => localName name

/-- **An attribute**: its name and its value as written, or none where it is not well formed. -/
abbrev Attribute := Option (Text × Text)

/-- The attributes in a text, given whether a name may stand once only, the names of those before it,
and as many steps as it may take. An attribute without equals sign ends before what stands there
instead; one whose value has no quotes, and one whose name stood before, end at the next blank. -/
def attributesFrom (unique : Bool) : Nat → List Text → Text → List Attribute
  | 0, _, _ => []
  | steps + 1, seen, text =>
    match text.dropWhile isBlank with
    | [] => []
    | first :: rest =>
      let name := first :: rest.takeWhile fun c => !isBlank c && c ≠ '='
      match (rest.dropWhile fun c => !isBlank c && c ≠ '=').dropWhile isBlank with
      | [] => [none]
      | '=' :: behind =>
        if unique && seen.contains name then
          none :: attributesFrom unique steps seen (behind.dropWhile (!isBlank ·))
        else
          match behind.dropWhile isBlank with
          | [] => [none]
          | quote :: held =>
            if quote = '"' ∨ quote = '\'' then
              match upTo? [quote] held with
              | some (value, after) =>
                some (name, value) :: attributesFrom unique steps (name :: seen) after
              | none => [none]
            else none :: attributesFrom unique steps (name :: seen) (held.dropWhile (!isBlank ·))
      | after => none :: attributesFrom unique steps seen after

/-- **The attributes of a start tag**, by what stands behind its name. A name may stand once. -/
def attributes (text : Text) : List Attribute :=
  attributesFrom true (text.length + 1) [] text

/-- The attributes of a start tag, whose names may stand more than once. -/
def attributesWithRepeats (text : Text) : List Attribute :=
  attributesFrom false (text.length + 1) [] text

end EnumCodegen.Xml
