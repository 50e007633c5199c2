import EnumCodegen.Notice
import EnumCodegen.Schema.Basic
import EnumCodegen.Schema.Comments

/-!
# The enums of a described file

The messages of a file are visited depth-first, each before the messages in it. The enums of the
file itself come first, then those of each message; enum fields come in the order of their messages.
A field is kept if its enum is declared in the same file.

Comments find their part by an address: field numbers of the description, each followed by an index.

## Main definitions

* `MessageNode`: a message of the file's tree, with the names down to it and its address
* `FileDescriptor.messageNodes`, `FileDescriptor.enumNodes`: the messages and enums of the tree
* `EnumFieldNode`: an enum field, before its enum is looked up
* `EnumSchema.ofDescriptor`: the enums and enum fields of a described file
* `schemaNotices`: what there is to report about it
-/

namespace EnumCodegen

/-- **A message in the tree of a file**: the names down to it, outermost first, and its address. -/
structure MessageNode where
  path : List Text
  address : List Nat
  message : MessageDescriptor

/-- **An enum in the tree of a file**: the names of the messages around it, outermost first, and its
address. -/
structure EnumNode where
  nesting : List Text
  address : List Nat
  enum : EnumDescriptor

mutual

/-- The message and those in it, depth-first. -/
def MessageDescriptor.nodes (outer : List Text) (address : List Nat) :
    MessageDescriptor → List MessageNode
  | ⟨name?, fields, nested, enums⟩ =>
    let path := outer ++ [name?.getD []]
    ⟨path, address, ⟨name?, fields, nested, enums⟩⟩ ::
      MessageDescriptor.nodesOf path (address ++ [3]) 0 nested

/-- The messages of a list and those in them, depth-first. The list stands in the field with the
given address, from the given index on. -/
def MessageDescriptor.nodesOf (outer : List Text) (field : List Nat) (index : Nat) :
    List MessageDescriptor → List MessageNode
  | [] => []
  | message :: rest =>
    message.nodes outer (field ++ [index]) ++
      MessageDescriptor.nodesOf outer field (index + 1) rest

end

/-- The enums of a list, which stands in the field with the given address. -/
def EnumDescriptor.nodesOf (nesting : List Text) (field : List Nat)
    (enums : List EnumDescriptor) : List EnumNode :=
  enums.mapIdx fun i enum => ⟨nesting, field ++ [i], enum⟩

/-- **The messages of a file**, depth-first. -/
def FileDescriptor.messageNodes (file : FileDescriptor) : List MessageNode :=
  MessageDescriptor.nodesOf [] [4] 0 file.messages

/-- The enums of a message itself. -/
def MessageNode.enumNodes (node : MessageNode) : List EnumNode :=
  EnumDescriptor.nodesOf node.path (node.address ++ [4]) node.message.enums

/-- **The enums of a file**: its own, then those of its messages. -/
def FileDescriptor.enumNodes (file : FileDescriptor) : List EnumNode :=
  EnumDescriptor.nodesOf [] [5] file.enums ++ file.messageNodes.flatMap (·.enumNodes)

/-- **The full name** of an enum: package, if any, messages and name, each behind a dot. -/
def fullName (package : Text) (nesting : List Text) (name : Text) : Text :=
  ((if package.isEmpty then [] else [package]) ++ nesting ++ [name]).flatMap ('.' :: ·)

/-- **The declaration of an enum** of the file. -/
def EnumNode.declaration (file : FileDescriptor) (node : EnumNode) : DeclaredEnum where
  name := node.enum.name
  fullName := fullName file.package node.nesting node.enum.name
  nesting := node.nesting
  values := node.enum.values.mapIdx fun i value =>
    ⟨value.name, value.number, leadingComment? file.locations (node.address ++ [2, i])⟩
  comment? := leadingComment? file.locations node.address

/-- **The storage of an enum field.** A member of a oneof always has a value, and in the third dialect
so has a plain field. -/
def FieldDescriptor.storage (field : FieldDescriptor) (isProto3 : Bool) : FieldStorage :=
  if field.label = .repeated then .repeated
  else if field.proto3Optional then .optional
  else if field.oneofIndex?.isSome then .singular
  else if field.label = .optional ∧ !isProto3 then .optional
  else .singular

/-- The marker by which a comment makes its field an attribute. -/
def attributeMarker : Text :=
  "xml:attr"

/-- **An enum field in the tree of a file**: the names of the messages around it, outermost first,
and its address. -/
structure EnumFieldNode where
  messagePath : List Text
  address : List Nat
  field : FieldDescriptor

/-- The enum fields of a message itself. -/
def MessageNode.enumFieldNodes (node : MessageNode) : List EnumFieldNode :=
  (node.message.fields.mapIdx fun i field =>
    (⟨node.path, node.address ++ [2, i], field⟩ : EnumFieldNode)).filter (·.field.isEnum)

/-- **The enum fields of a file**, in the order of its messages. -/
def FileDescriptor.enumFieldNodes (file : FileDescriptor) : List EnumFieldNode :=
  file.messageNodes.flatMap (·.enumFieldNodes)

/-- The enums declared in a file. -/
def FileDescriptor.declarations (file : FileDescriptor) : List DeclaredEnum :=
  file.enumNodes.map (·.declaration file)

/-- The XML node of a field: an attribute under its own name if its comments ask for one, else an
element under its name in `UpperCamel` case. -/
def EnumFieldNode.xmlNode (file : FileDescriptor) (node : EnumFieldNode) : XmlNode :=
  if mentions file.locations node.address attributeMarker then .attribute node.field.name
  else .element (Text.upperCamel node.field.name)

/-- **Looking up the enum of a field** among the declarations of its file: the first with the full
name that the field asks for. -/
def EnumFieldNode.resolve? (file : FileDescriptor) (enums : List DeclaredEnum)
    (node : EnumFieldNode) : Option EnumField :=
  (enums.findIdx? (·.fullName = node.field.typeName)).map fun i =>
    ⟨node.messagePath, node.field.name, i, node.field.storage file.isProto3, node.xmlNode file⟩

/-- **The enums and enum fields of a described file.** -/
def EnumSchema.ofDescriptor (file : FileDescriptor) : EnumSchema :=
  let enums := file.declarations
  { name := file.name
    package := file.package
    placement? := file.options?.bind fun options => Placement.parse? (options.goPackage?.getD [])
    enums
    fields := file.enumFieldNodes.filterMap (·.resolve? file enums) }

/-- **What there is to report about a described file**: the enum fields whose enum is declared
elsewhere. -/
def schemaNotices (file : FileDescriptor) : List Notice :=
  let enums := file.declarations
  (file.enumFieldNodes.filter fun node => (node.resolve? file enums).isNone).map fun node =>
    .foreignEnum node.field.name node.field.typeName

end EnumCodegen
