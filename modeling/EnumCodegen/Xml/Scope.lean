import EnumCodegen.Xml.Part

/-!
# Namespaces in force

An attribute whose name is `xmlns` with a colon and a label lets the label stand for a namespace,
within its element. Labels that are reserved, and the namespaces they stand for, keep to one another.
Namespaces matter for one thing: an attribute that says that an element holds nothing.

## Main definitions

* `Xml.Scope`: the labels in force
* `Xml.Scope.enter?`, `Xml.Scope.leave`: the start and the end of an element
* `Xml.Scope.marksAbsence`: whether a start tag says that its element holds nothing
-/

namespace EnumCodegen.Xml

/-- **A binding**: the namespace that a label stands for, declared by an element at a depth. -/
structure Binding where
  depth : Nat
  label : Text
  space : Text
  deriving Repr, DecidableEq

/-- **The labels in force**, so many elements being open. The last declared comes first. -/
structure Scope where
  depth : Nat
  bindings : List Binding
  deriving Repr, DecidableEq

/-- The name of a standard namespace, by its path. -/
def standardSpace (path : Text) : Text :=
  "http:".toList ++ "//www.w3.org/".toList ++ path

/-- The namespace of names that the language defines. Its label is `xml`. -/
def languageSpace : Text :=
  standardSpace "XML/1998/namespace"

/-- The namespace of declarations. Its label is `xmlns`, which needs no declaration. -/
def declarationSpace : Text :=
  standardSpace "2000/xmlns/"

/-- The namespace of remarks about what an element holds. -/
def instanceSpace : Text :=
  standardSpace "2001/XMLSchema-instance"

namespace Scope

/-- The scope outside all elements. -/
def outermost : Scope :=
  ⟨0, []⟩

/-- The label that an attribute declares, if any. -/
def declaredLabel? (name : Text) : Option Text :=
  List.isPrefixOf? "xmlns:".toList name

/-- Whether a label may stand for a namespace. -/
def mayBind (label space : Text) : Bool :=
  if label = "xml" then space = languageSpace
  else label ≠ "xmlns" && space ≠ languageSpace && space ≠ declarationSpace

/-- The scope after an attribute, unless it declares what may not be. -/
def declare? (scope : Scope) (name value : Text) : Option Scope :=
  match declaredLabel? name with
  | none => some scope
  | some label =>
    if mayBind label value then
      some ⟨scope.depth, ⟨scope.depth, label, value⟩ :: scope.bindings⟩
    else none

/-- The scope after attributes, up to the first that is not well formed. -/
def declareAll? (scope : Scope) : List Attribute → Option Scope
  | some (name, value) :: rest => (scope.declare? name value).bind (·.declareAll? rest)
  | _ => some scope

/-- **The scope inside an element**, by what stands behind the name in its start tag; none, if it
declares what may not be. -/
def enter? (scope : Scope) (behindName : Text) : Option Scope :=
  declareAll? ⟨scope.depth + 1, scope.bindings⟩ (attributesWithRepeats behindName)

/-- **The scope behind an element.** -/
def leave (scope : Scope) : Scope :=
  ⟨scope.depth - 1, scope.bindings.filter (·.depth ≤ scope.depth - 1)⟩

/-- The namespace that a label stands for. The empty label stands for none. -/
def space? (scope : Scope) (label : Text) : Option Text :=
  if label.isEmpty then none
  else (scope.bindings.find? (·.label = label)).map (·.space)

/-- Whether an attribute says that its element holds nothing. -/
def isAbsenceMark (scope : Scope) (name value : Text) : Bool :=
  let label := name.takeWhile (· ≠ ':')
  name.drop label.length = ":nil" && scope.space? label = some instanceSpace &&
    (value = "1" || value = "true")

/-- **Whether a start tag says that its element holds nothing**, by what stands behind its name. -/
def marksAbsence (scope : Scope) (behindName : Text) : Bool :=
  (attributes behindName).any (·.any fun (name, value) => scope.isAbsenceMark name value)

end Scope

end EnumCodegen.Xml
