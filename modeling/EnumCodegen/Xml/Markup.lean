import EnumCodegen.Text.Basic

/-!
# Markup

XML text is cut into markup: tags, texts, sections of plain characters, and type declarations.
Comments and processing instructions mean nothing and leave no trace. Every end tag has to name the
element that is open, though blanks may follow the name; where it does not, or markup is not closed,
the text breaks off.

## Main definitions

* `Xml.Markup`: a piece of markup
* `Xml.markup`: the markup of a text
-/

namespace EnumCodegen.Xml

open Text (isBlank)

/-- **A piece of markup.** An empty element counts as a start and an end. -/
inductive Markup where
  /-- A start tag: the name, and what stands behind it. -/
  | opened (name attributes : Text)
  /-- The end of the element that is open. -/
  | closed
  /-- Text between tags, as written. -/
  | text (raw : Text)
  /-- A section of plain characters. -/
  | plain (text : Text)
  /-- A type declaration. -/
  | declaration
  /-- What follows is not well formed. -/
  | broken
  deriving Repr, DecidableEq

/-- The text up to the first occurrence of a terminator, and what follows it. -/
def upTo? (terminator : Text) : Text → Option (Text × Text)
  | [] => if terminator.isEmpty then some ([], []) else none
  | c :: rest =>
    match terminator.isPrefixOf? (c :: rest) with
    | some after => some ([], after)
    | none => (upTo? terminator rest).map fun (text, after) => (c :: text, after)

/-- The content of a tag up to its closing bracket, which does not stand in quotes, and what follows.
The quote is the one that is open. -/
def tagContent? : Option Char → Text → Option (Text × Text)
  | _, [] => none
  | quote?, c :: rest =>
    if quote? = none ∧ c = '>' then some ([], rest)
    else
      let quote? :=
        match quote? with
        | some quote => if c = quote then none else some quote
        | none => if c = '"' ∨ c = '\'' then some c else none
      (tagContent? quote? rest).map fun (text, after) => (c :: text, after)

/-- The content of a declaration up to its closing bracket, and what follows. So many brackets are
open inside. -/
def declarationContent? : Nat → Text → Option (Text × Text)
  | _, [] => none
  | depth, c :: rest =>
    if c = '>' ∧ depth = 0 then some ([], rest)
    else
      let depth := if c = '<' then depth + 1 else if c = '>' then depth - 1 else depth
      (declarationContent? depth rest).map fun (text, after) => (c :: text, after)

/-- Whether the content of a declaration, from its exclamation mark on, declares a document type. -/
def isTypeDeclaration (content : Text) : Bool :=
  (content.take 7).map Char.toUpper = "DOCTYPE".toList && (content.drop 7).any (!isBlank ·)

/-- The name and the rest of the content of a tag. -/
def splitName (content : Text) : Text × Text :=
  (content.takeWhile (!isBlank ·), content.dropWhile (!isBlank ·))

/-- What follows a processing instruction, given the text behind its first question mark. The second
one is another. -/
def afterInstruction? : Text → Option Text
  | '>' :: _ => none
  | text => (upTo? "?>" text).map (·.2)

/-- The name in an end tag. Blanks alone are a name. -/
def endName (content : Text) : Text :=
  if content.all isBlank then content else Text.trimmedEnd isBlank content

/-- **Cutting off special markup**, which an exclamation mark introduces: what it leaves, and what
follows. -/
def special? (text : Text) : Option (List Markup × Text) :=
  match text with
  | '-' :: '-' :: rest => (upTo? "-->" rest).map fun (_, after) => ([], after)
  | '[' :: rest =>
    match List.isPrefixOf? "CDATA[".toList rest with
    | some content => (upTo? "]]>" content).map fun (plain, after) => ([.plain plain], after)
    | none => none
  | c :: _ =>
    if c = 'D' ∨ c = 'd' then
      match declarationContent? 0 text with
      | some (content, after) =>
        if isTypeDeclaration content then some ([.declaration], after) else none
      | none => none
    else none
  | [] => none

/-- **The markup of a text**, given the names of the open elements, the innermost first, and as many
steps as it may take. -/
def markupFrom : Nat → List Text → Text → List Markup
  | 0, _, _ => []
  | _ + 1, _, [] => []
  | steps + 1, opened, '<' :: rest =>
    match rest with
    | '!' :: rest =>
      match special? rest with
      | some (pieces, after) => pieces ++ markupFrom steps opened after
      | none => [.broken]
    | '?' :: rest =>
      match afterInstruction? rest with
      | some after => markupFrom steps opened after
      | none => [.broken]
    | '/' :: rest =>
      match tagContent? none rest, opened with
      | some (content, after), name :: outer =>
        if endName content = name then .closed :: markupFrom steps outer after
        else [.broken]
      | _, _ => [.broken]
    | _ =>
      match tagContent? none rest with
      | some (content, after) =>
        if content.getLast? = some '/' then
          let (name, attributes) := splitName content.dropLast
          .opened name attributes :: .closed :: markupFrom steps opened after
        else
          let (name, attributes) := splitName content
          .opened name attributes :: markupFrom steps (name :: opened) after
      | none => [.broken]
  | steps + 1, opened, text =>
    .text (text.takeWhile (· ≠ '<')) :: markupFrom steps opened (text.dropWhile (· ≠ '<'))

/-- **The markup of a text.** A mark of the byte order at the start means nothing. -/
def markup (text : Text) : List Markup :=
  let text := if text.head? = some '\ufeff' then text.tail else text
  markupFrom (text.length + 1) [] text

end EnumCodegen.Xml
