import EnumCodegen.Xml.Scope

/-!
# Going through a document

A cursor stands between two parts of a document and knows the namespaces in force. It moves past one
part at a time, or to the end of an element that is of no interest. What an element holds is looked at
when the cursor moves past it; behind the first part of an element that is skipped, only the markup is.

## Main definitions

* `Xml.Cursor`: a place in a document
* `Xml.Cursor.next?`: what comes next
* `Xml.Cursor.skipElement?`: the place behind an element
-/

namespace EnumCodegen.Xml

/-- **A place in a document**: the namespaces in force, and what is ahead. -/
structure Cursor where
  scope : Scope
  ahead : List Part
  deriving Repr, DecidableEq

/-- **What a reader meets**: the start or the end of an element, or text. -/
inductive Encounter where
  | opened (name attributes : Text)
  | closed
  | text (value : Text)
  deriving Repr, DecidableEq

namespace Cursor

/-- The start of a document. -/
def start (text : Text) : Cursor :=
  ⟨.outermost, parts text⟩

/-- What comes next in a scope, and the place behind it. -/
def nextIn? (scope : Scope) : List Part → Option (Encounter × Cursor)
  | .blank :: rest | .declaration :: rest => nextIn? scope rest
  | .opened name attributes :: rest =>
    (scope.enter? attributes).map fun inside => (.opened name attributes, ⟨inside, rest⟩)
  | .closed :: rest => some (.closed, ⟨scope.leave, rest⟩)
  | .text (some value) :: rest => some (.text value, ⟨scope, rest⟩)
  | _ => none

/-- **What comes next**, and the place behind it; none, if it is not well formed or nothing comes. -/
def next? (cursor : Cursor) : Option (Encounter × Cursor) :=
  nextIn? cursor.scope cursor.ahead

/-- The place behind blank text. -/
def behindBlank (cursor : Cursor) : Cursor :=
  match cursor.ahead with
  | .blank :: rest => ⟨cursor.scope, rest⟩
  | _ => cursor

/-- Whether text that is not blank comes next. -/
def atText (cursor : Cursor) : Bool :=
  match cursor.ahead with
  | .text _ :: _ => true
  | _ => false

/-- The scope after a look at what comes next: where that is a start tag, its declarations are in
force. -/
def scopeAhead (cursor : Cursor) : Scope :=
  match cursor.behindBlank.ahead with
  | .opened _ attributes :: _ => (cursor.scope.enter? attributes).getD cursor.scope
  | _ => cursor.scope

/-! ## Skipping -/

/-- What follows the end of the element around parts, so many elements being open inside. -/
def behindEnd? : Nat → List Part → Option (List Part)
  | _, [] => none
  | _, .broken :: _ => none
  | depth, .opened _ _ :: rest => behindEnd? (depth + 1) rest
  | 0, .closed :: rest => some rest
  | depth + 1, .closed :: rest => behindEnd? depth rest
  | depth, _ :: rest => behindEnd? depth rest

/-- The place behind the end of the element with a name around the cursor. What comes next is looked
at. If it is a start tag, the scope of its element ends, and that of the element around it only if it
has the same name. -/
def skipRest? (name : Text) (cursor : Cursor) : Option Cursor :=
  match cursor.ahead with
  | .closed :: rest => some ⟨cursor.scope.leave, rest⟩
  | .opened inner attributes :: rest => do
    let inside ← cursor.scope.enter? attributes
    let rest ← behindEnd? 1 rest
    return ⟨if inner = name then inside.leave.leave else inside.leave, rest⟩
  | ahead => (behindEnd? 0 ahead).map fun rest => ⟨cursor.scope.leave, rest⟩

/-- **The place behind an element**, from inside its start tag. The first part inside is looked at, and
what follows it. Blank text counts as such a part if the element before it was skipped from text on. -/
def skipElement? (name : Text) (cursor : Cursor) : Option Cursor := do
  let (encounter, cursor) ← cursor.next?
  match encounter with
  | .closed => return cursor
  | .text _ => cursor.skipRest? name
  | .opened inner _ =>
    let inside := cursor.behindBlank
    let behind ← inside.skipRest? inner
    if inside.atText then behind.skipRest? name else behind.behindBlank.skipRest? name

end Cursor

end EnumCodegen.Xml
