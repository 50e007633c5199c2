import EnumCodegen.Proofs.Schema.Tree

/-!
# The walk through a reduced description

A description can be reduced to what some code for it depends on: to its names alone, or to all but
its numbers. The walk does not look at what a reduction takes away. So walking through a reduced
file gives the nodes of the file, each reduced by itself.

## Main definitions

* `MessageDescriptor.reduced`: a message without the numbers of values, its fields reduced in some way
* `FileDescriptor.names`: a file of names alone
* `FileDescriptor.withoutNumbers`: a file without the numbers of values and fields, and without the
  spans of source locations
* `EnumSchema.withoutNumbers`: a schema without the numbers of values

## Main results

* `FileDescriptor.messageNodes_reduced`, `FileDescriptor.enumNodes_reduced`: the walk through a
  reduced file
* `EnumSchema.ofDescriptor_withoutNumbers`: the schema of a file without numbers
-/

namespace EnumCodegen

/-! ## Reductions

A reduced part has its name set, so a name that was not set becomes an empty one, as which it reads
anyway. -/

/-- A value without its number. -/
def EnumValueDescriptor.withoutNumber (value : EnumValueDescriptor) : EnumValueDescriptor where
  name? := some value.name

/-- An enum without the numbers of its values. -/
def EnumDescriptor.withoutNumbers (enum : EnumDescriptor) : EnumDescriptor where
  name? := some enum.name
  values := enum.values.map (·.withoutNumber)

/-- A field without its number. -/
def FieldDescriptor.withoutNumber (field : FieldDescriptor) : FieldDescriptor :=
  { field with number? := none }

mutual

/-- **A message reduced** at every level: its values have no numbers, and what becomes of a list of
fields is given. -/
def MessageDescriptor.reduced (onFields : List FieldDescriptor → List FieldDescriptor) :
    MessageDescriptor → MessageDescriptor
  | ⟨name?, fields, nested, enums⟩ =>
    ⟨some (name?.getD []), onFields fields, MessageDescriptor.reducedAll onFields nested,
      enums.map (·.withoutNumbers)⟩

/-- The messages of a list reduced. -/
def MessageDescriptor.reducedAll (onFields : List FieldDescriptor → List FieldDescriptor) :
    List MessageDescriptor → List MessageDescriptor
  | [] => []
  | message :: rest => message.reduced onFields :: MessageDescriptor.reducedAll onFields rest

end

/-- A location without its span. -/
def SourceLocation.withoutSpan (location : SourceLocation) : SourceLocation :=
  { location with span := [] }

namespace FileDescriptor

/-- **A file of names alone**: the file name and the tree of the names of messages, enums and values.
It has no package, dialect or options, no fields, no comments and no numbers. -/
def names (file : FileDescriptor) : FileDescriptor where
  name? := some file.name
  enums := file.enums.map (·.withoutNumbers)
  messages := MessageDescriptor.reducedAll (fun _ => []) file.messages

/-- **A file without numbers**: without those of values and fields, and without the spans of source
locations. Everything else stays. -/
def withoutNumbers (file : FileDescriptor) : FileDescriptor where
  name? := some file.name
  package? := file.package?
  dialect? := file.dialect?
  enums := file.enums.map (·.withoutNumbers)
  messages := MessageDescriptor.reducedAll (List.map (·.withoutNumber)) file.messages
  options? := file.options?
  source? := file.source?.map fun source => ⟨source.locations.map (·.withoutSpan)⟩

end FileDescriptor

/-- A message of a tree, reduced. -/
def MessageNode.reduced (onFields : List FieldDescriptor → List FieldDescriptor)
    (node : MessageNode) : MessageNode :=
  { node with message := node.message.reduced onFields }

/-- An enum of a tree, without the numbers of its values. -/
def EnumNode.withoutNumbers (node : EnumNode) : EnumNode :=
  { node with enum := node.enum.withoutNumbers }

/-- An enum field of a tree, without its number. -/
def EnumFieldNode.withoutNumber (node : EnumFieldNode) : EnumFieldNode :=
  { node with field := node.field.withoutNumber }

/-- A declared value, without its number. -/
def DeclaredValue.withoutNumber (value : DeclaredValue) : DeclaredValue :=
  { value with number := 0 }

/-- A declared enum, without the numbers of its values. -/
def DeclaredEnum.withoutNumbers (enum : DeclaredEnum) : DeclaredEnum :=
  { enum with values := enum.values.map (·.withoutNumber) }

/-- **A schema without the numbers of values.** -/
def EnumSchema.withoutNumbers (file : EnumSchema) : EnumSchema :=
  { file with enums := file.enums.map (·.withoutNumbers) }

/-! ## The walk -/

/-- A numbered list of reduced items, if a number does not matter to the reduction. -/
theorem mapIdx_map_of_comm {α α' β β' : Type} {reduce : α → α'} {reduce' : β → β'}
    {item : Nat → α → β} {item' : Nat → α' → β'}
    (h : ∀ i a, item' i (reduce a) = reduce' (item i a)) (items : List α) :
    (items.map reduce).mapIdx item' = (items.mapIdx item).map reduce' := by
  apply List.ext_getElem
  · simp
  · intro i hi hi'
    simp [h]

theorem EnumDescriptor.name_values_withoutNumbers (enum : EnumDescriptor) :
    enum.withoutNumbers.values.map (·.name) = enum.values.map (·.name) :=
  List.map_map

theorem EnumDescriptor.nodesOf_withoutNumbers (nesting : List Text) (field : List Nat)
    (enums : List EnumDescriptor) :
    nodesOf nesting field (enums.map (·.withoutNumbers)) =
      (nodesOf nesting field enums).map (·.withoutNumbers) := by
  apply mapIdx_map_of_comm
  exact fun _ _ => rfl

section Reduced

variable {onFields : List FieldDescriptor → List FieldDescriptor}

namespace MessageDescriptor

theorem reduced_eq (message : MessageDescriptor) :
    message.reduced onFields =
      ⟨some message.name, onFields message.fields, reducedAll onFields message.nested,
        message.enums.map (·.withoutNumbers)⟩ := by
  cases message
  rw [reduced]
  rfl

/-- The nodes of reduced messages, if those of each message are the reduced ones. -/
theorem nodesOf_reducedAll {messages : List MessageDescriptor}
    (h : ∀ message ∈ messages, ∀ outer address, (message.reduced onFields).nodes outer address =
      (message.nodes outer address).map (·.reduced onFields))
    (outer : List Text) (field : List Nat) (k : Nat) :
    nodesOf outer field k (reducedAll onFields messages) =
      (nodesOf outer field k messages).map (·.reduced onFields) := by
  induction messages generalizing k with
  | nil => rw [reducedAll, nodesOf, List.map_nil]
  | cons first rest ih =>
    obtain ⟨hfirst, hrest⟩ := List.forall_mem_cons.mp h
    rw [reducedAll, nodesOf, nodesOf, List.map_append, hfirst, ih hrest]

/-- **The nodes of a reduced message** are its nodes, reduced: names and addresses stay. -/
theorem nodes_reduced (message : MessageDescriptor) (outer : List Text) (address : List Nat) :
    (message.reduced onFields).nodes outer address =
      (message.nodes outer address).map (·.reduced onFields) := by
  induction message using nested_induction generalizing outer address with
  | h message ih =>
  have hname : (message.reduced onFields).name = message.name := by rw [reduced_eq]; rfl
  have hnested : (message.reduced onFields).nested = reducedAll onFields message.nested := by
    rw [reduced_eq]
  -- the messages in it are reached under the same names and addresses
  rw [nodes_eq, nodes_eq outer address message, hname, hnested, nodesOf_reducedAll ih, List.map_cons]
  rfl

end MessageDescriptor

/-- The enums of a reduced message are its enums without numbers. -/
theorem MessageNode.enumNodes_reduced (node : MessageNode) :
    (node.reduced onFields).enumNodes = node.enumNodes.map (·.withoutNumbers) := by
  have henums : (node.message.reduced onFields).enums =
      node.message.enums.map (·.withoutNumbers) := by
    rw [MessageDescriptor.reduced_eq]
  rw [enumNodes, enumNodes, ← EnumDescriptor.nodesOf_withoutNumbers, ← henums]
  rfl

namespace FileDescriptor

variable {file file' : FileDescriptor}

/-- **The messages of a reduced file** are its messages, reduced. -/
theorem messageNodes_reduced
    (h : file'.messages = MessageDescriptor.reducedAll onFields file.messages) :
    file'.messageNodes = file.messageNodes.map (·.reduced onFields) := by
  rw [messageNodes, h, MessageDescriptor.nodesOf_reducedAll]
  · rfl
  · exact fun message _ => message.nodes_reduced

/-- **The enums of a reduced file** are its enums without numbers. -/
theorem enumNodes_reduced (henums : file'.enums = file.enums.map (·.withoutNumbers))
    (hmessages : file'.messages = MessageDescriptor.reducedAll onFields file.messages) :
    file'.enumNodes = file.enumNodes.map (·.withoutNumbers) := by
  rw [enumNodes, enumNodes, henums, EnumDescriptor.nodesOf_withoutNumbers,
    messageNodes_reduced hmessages, List.map_append, List.flatMap_map, List.map_flatMap]
  simp only [MessageNode.enumNodes_reduced]

end FileDescriptor

end Reduced

/-! ## Without numbers -/

/-- The enum fields of a message without numbers. -/
theorem MessageNode.enumFieldNodes_reduced (node : MessageNode) :
    (node.reduced (List.map (·.withoutNumber))).enumFieldNodes =
      node.enumFieldNodes.map (·.withoutNumber) := by
  have hfields : (node.message.reduced (List.map (·.withoutNumber))).fields =
      node.message.fields.map (·.withoutNumber) := by
    rw [MessageDescriptor.reduced_eq]
  have hnodes : (node.message.fields.map (·.withoutNumber)).mapIdx
      (fun i field => (⟨node.path, node.address ++ [2, i], field⟩ : EnumFieldNode)) =
        (node.message.fields.mapIdx fun i field =>
          (⟨node.path, node.address ++ [2, i], field⟩ : EnumFieldNode)).map (·.withoutNumber) := by
    apply mapIdx_map_of_comm
    exact fun _ _ => rfl
  -- a field keeps its type, so the same fields have an enum before and after
  unfold enumFieldNodes reduced
  rw [hfields, hnodes, List.filter_map]
  rfl

/-- The location that counts does not depend on spans. -/
theorem locationOf?_withoutSpan (locations : List SourceLocation) (address : List Nat) :
    locationOf? (locations.map (·.withoutSpan)) address =
      (locationOf? locations address).map (·.withoutSpan) := by
  -- a location addresses a part by its path, which it keeps
  rw [locationOf?, locationOf?, List.findRev?_eq_find?_reverse, List.findRev?_eq_find?_reverse,
    ← List.map_reverse, List.find?_map]
  rfl

theorem leadingComment?_withoutSpan (locations : List SourceLocation) (address : List Nat) :
    leadingComment? (locations.map (·.withoutSpan)) address = leadingComment? locations address := by
  rw [leadingComment?, locationOf?_withoutSpan, Option.bind_map]
  rfl

theorem mentions_withoutSpan (locations : List SourceLocation) (address : List Nat) (marker : Text) :
    mentions (locations.map (·.withoutSpan)) address marker = mentions locations address marker := by
  rw [mentions, locationOf?_withoutSpan, Option.any_map]
  rfl

namespace FileDescriptor

variable (file : FileDescriptor)

theorem locations_withoutNumbers :
    file.withoutNumbers.locations = file.locations.map (·.withoutSpan) := by
  unfold locations withoutNumbers
  cases file.source? <;> rfl

theorem enumNodes_withoutNumbers :
    file.withoutNumbers.enumNodes = file.enumNodes.map (·.withoutNumbers) := by
  have hmessages : file.withoutNumbers.messages =
      MessageDescriptor.reducedAll (List.map (·.withoutNumber)) file.messages := rfl
  exact enumNodes_reduced rfl hmessages

theorem enumFieldNodes_withoutNumbers :
    file.withoutNumbers.enumFieldNodes = file.enumFieldNodes.map (·.withoutNumber) := by
  have hmessages : file.withoutNumbers.messages =
      MessageDescriptor.reducedAll (List.map (·.withoutNumber)) file.messages := rfl
  rw [enumFieldNodes, enumFieldNodes, messageNodes_reduced hmessages, List.flatMap_map,
    List.map_flatMap]
  simp only [MessageNode.enumFieldNodes_reduced]

end FileDescriptor

/-- The declaration of an enum without numbers is its declaration, without numbers. -/
theorem EnumNode.declaration_withoutNumbers (file : FileDescriptor) (node : EnumNode) :
    node.withoutNumbers.declaration file.withoutNumbers = (node.declaration file).withoutNumbers := by
  unfold declaration DeclaredEnum.withoutNumbers
  rw [file.locations_withoutNumbers]
  simp only [leadingComment?_withoutSpan]
  congr 1
  apply mapIdx_map_of_comm
  exact fun _ _ => rfl

/-- A field finds its enum whether or not there are numbers. -/
theorem EnumFieldNode.resolve?_withoutNumber (file : FileDescriptor) (enums : List DeclaredEnum)
    (node : EnumFieldNode) :
    node.withoutNumber.resolve? file.withoutNumbers (enums.map (·.withoutNumbers)) =
      node.resolve? file enums := by
  have hnode : node.withoutNumber.xmlNode file.withoutNumbers = node.xmlNode file := by
    unfold xmlNode
    rw [file.locations_withoutNumbers, mentions_withoutSpan]
    rfl
  rw [resolve?, resolve?, hnode, List.findIdx?_map]
  rfl

/-- **The schema of a file without numbers** is the schema of the file, without numbers: the same
names, comments, fields and XML nodes. -/
theorem EnumSchema.ofDescriptor_withoutNumbers (file : FileDescriptor) :
    ofDescriptor file.withoutNumbers = (ofDescriptor file).withoutNumbers := by
  have henums : file.withoutNumbers.declarations =
      file.declarations.map (·.withoutNumbers) := by
    rw [FileDescriptor.declarations, FileDescriptor.declarations,
      file.enumNodes_withoutNumbers, List.map_map, List.map_map]
    exact List.map_congr_left fun node _ => node.declaration_withoutNumbers file
  have hfields : file.withoutNumbers.enumFieldNodes.filterMap
      (·.resolve? file.withoutNumbers (file.declarations.map (·.withoutNumbers))) =
        file.enumFieldNodes.filterMap (·.resolve? file file.declarations) := by
    rw [file.enumFieldNodes_withoutNumbers, List.filterMap_map]
    exact List.filterMap_congr fun node _ => node.resolve?_withoutNumber file _
  unfold ofDescriptor EnumSchema.withoutNumbers
  simp only [henums, hfields]
  rfl

end EnumCodegen
