import EnumCodegen.Text.Basic

/-!
# Nodes of an XML document

A field of a message travels in XML either as a child element or as an attribute.

## Main definitions

* `XmlNode`: an element or an attribute, by its name
* `XmlNode.key`: the name under which a record of the document's parts holds the node
-/

namespace EnumCodegen

/-- **Where a field's value stands** in an XML document. -/
inductive XmlNode where
  /-- The text of a child element. -/
  | element (name : Text)
  /-- The value of an attribute of the message's element. -/
  | «attribute» (name : Text)
  deriving Repr, DecidableEq

namespace XmlNode

/-- The name as written in the document. -/
def name : XmlNode → Text
  | element name => name
  | «attribute» name => name

/-- **The key of a node**: an attribute is told from an element by a leading `@`. -/
def key : XmlNode → Text
  | element name => name
  | «attribute» name => '@' :: name

end XmlNode

end EnumCodegen
