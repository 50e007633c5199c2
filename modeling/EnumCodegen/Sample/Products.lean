import EnumCodegen.Document.Protobuf
import EnumCodegen.Generation.Run
import EnumCodegen.Sample.Schema

/-!
# What the sample schema yields

The enums, the documents and the generated files of the sample package, and the constants that the
generated code for it holds.

## Main definitions

* `Sample.schema`: the enums of the package
* `Sample.enum?`: an enum by its name
* `Sample.documentType?`, `Sample.encodedType?`: the documents that a message describes
* `Sample.outputNames`: the names of the generated files
* `Sample.graphQLText?`, `Sample.xmlNode?`: the constants of the generated code
-/

namespace EnumCodegen.Sample

/-- **The enums of the package.** -/
def schema : EnumSchema :=
  EnumSchema.ofDescriptor enumsFile

/-- **The enum with a name.** -/
def enum? (name : Text) : Option DeclaredEnum :=
  schema.enums.find? (·.name = name)

/-- The messages of the package. -/
def messages : List MessageDescriptor :=
  files.flatMap (·.messages)

/-- **The types of the package's documents.** -/
def documentTypes : List DocumentType :=
  messages.map (DocumentType.ofMessage schema)

/-- **The documents that a message describes**, by the message's name. -/
def documentType? (name : Text) : Option DocumentType :=
  documentTypes.find? (·.name = name)

/-- The same documents with the numbers of their fields. -/
def encodedType? (name : Text) : Option EncodedType :=
  (messages.find? (·.name = name)).map (EncodedType.ofMessage schema)

/-- The settings of the run that generates the package's code. -/
def settings : Settings :=
  Settings.ofModes [.xml, .json, .graphQL] true

/-- **The names of the generated files.** -/
def outputNames : List Text :=
  match (generateWith files (files.map (·.name)) settings).result with
  | .ok outputs => outputs.map (·.name)
  | .error _ => []

/-- **A constant text** of the generated code, by its name. -/
def graphQLText? (name : Text) : Option Text :=
  (schema.items .graphQL).findSome? fun
    | .constant constant => if constant.name = name then some constant.value else none
    | _ => none

/-- **The XML node of a field**, by the flat name of the field. -/
def xmlNode? (key : Text) : Option XmlNode :=
  (schema.fields.find? (·.snakeKey = key)).map (·.node)

end EnumCodegen.Sample
