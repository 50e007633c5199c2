import EnumCodegen.Proofs.Schema.Address

/-!
# The walk reaches every part of the tree

The walk hands every message the address of its list and its index there. So it reaches a message
under the address of its indices. Enums and fields stand in numbered lists of their message, and the
same holds of them.

## Main results

* `MessageDescriptor.nested_induction`: induction over messages in messages
* `FileDescriptor.mem_messageNodes_iff`: the messages of a file
* `FileDescriptor.mem_enumNodes_iff`: its enums
* `FileDescriptor.mem_enumFieldNodes_iff`: its enum fields
-/

namespace EnumCodegen

/-- What does not depend on the index of an item can be read off the items. -/
theorem map_mapIdx_of_forall {α β γ : Type} {item : Nat → α → β} {f : β → γ} {g : α → γ}
    (h : ∀ i a, f (item i a) = g a) (items : List α) :
    (items.mapIdx item).map f = items.map g := by
  apply List.ext_getElem
  · rw [List.length_map, List.length_mapIdx, List.length_map]
  · intro i _ _
    rw [List.getElem_map, List.getElem_mapIdx, List.getElem_map, h]

namespace MessageDescriptor

/-- Induction over messages: a message is settled once those in it are. -/
theorem nested_induction {motive : MessageDescriptor → Prop}
    (h : ∀ message, (∀ inner ∈ message.nested, motive inner) → motive message)
    (message : MessageDescriptor) : motive message :=
  @MessageDescriptor.rec motive (fun messages => ∀ inner ∈ messages, motive inner)
    (fun _ _ _ _ ih => h _ ih) (by simp)
    (fun _ _ hhead htail => List.forall_mem_cons.mpr ⟨hhead, htail⟩) message

/-! ## Messages

A message hands on its own address with the number of its list of messages and an index. -/

variable {outer names : List Text} {address field : List Nat} {message : MessageDescriptor}
  {messages : List MessageDescriptor} {node : MessageNode}

theorem nodes_eq (outer : List Text) (address : List Nat) (message : MessageDescriptor) :
    message.nodes outer address =
      ⟨outer ++ [message.name], address, message⟩ ::
        nodesOf (outer ++ [message.name]) (address ++ [3]) 0 message.nested := by
  cases message
  rw [nodes]
  rfl

/-- The nodes of a list of messages, by index. -/
theorem mem_nodesOf_iff {k : Nat} :
    node ∈ nodesOf outer field k messages ↔
      ∃ (i : Nat) (message : MessageDescriptor), messages[i]? = some message ∧
        node ∈ message.nodes outer (field ++ [k + i]) := by
  induction messages generalizing k with
  | nil => simp [nodesOf]
  | cons first rest ih =>
    rw [nodesOf, List.mem_append, ih]
    constructor
    · rintro (hnode | ⟨i, message, hmessage, hnode⟩)
      · exact ⟨0, first, rfl, hnode⟩
      · refine ⟨i + 1, message, hmessage, ?_⟩
        rwa [Nat.add_right_comm, Nat.add_assoc] at hnode
    · rintro ⟨i, message, hmessage, hnode⟩
      cases i with
      | zero =>
        obtain rfl := Option.some.inj hmessage
        exact .inl hnode
      | succ i =>
        refine .inr ⟨i, message, hmessage, ?_⟩
        rwa [Nat.add_right_comm, Nat.add_assoc]

/-- **The nodes of a message** are those to which indices lead, under their addresses. -/
theorem mem_nodes_iff :
    node ∈ message.nodes outer address ↔
      ∃ inner names, message.at? inner = some (names, node.message) ∧ node.path = outer ++ names ∧
        node.address = address ++ innerAddress inner := by
  -- a message in the message is reached behind one more name and under a longer address
  induction message using nested_induction generalizing outer address node with
  | h message ih =>
  rw [nodes_eq, List.mem_cons, mem_nodesOf_iff]
  constructor
  · rintro (rfl | ⟨i, inner, hinner, hnode⟩)
    · exact ⟨[], _, rfl, rfl, by simp⟩
    · obtain ⟨rest, names, hat, hpath, haddress⟩ :=
        (ih inner (List.mem_of_getElem? hinner)).mp hnode
      refine ⟨i :: rest, message.name :: names, ?_, ?_, ?_⟩
      · rw [at?, hinner, Option.bind_some, hat, Option.map_some]
      · rw [hpath, List.append_assoc, List.singleton_append]
      · rw [haddress, innerAddress_cons]
        simp
  · rintro ⟨inner, names, hat, hpath, haddress⟩
    cases inner with
    | nil =>
      left
      obtain ⟨rfl, hmessage⟩ := Prod.mk.inj (Option.some.inj hat)
      obtain ⟨path, address', message'⟩ := node
      simp_all
    | cons i rest =>
      right
      rw [at?, Option.bind_eq_some_iff] at hat
      obtain ⟨inner, hinner, hat⟩ := hat
      obtain ⟨⟨names', found⟩, hat, heq⟩ := Option.map_eq_some_iff.mp hat
      obtain ⟨rfl, rfl⟩ := Prod.mk.inj heq
      refine ⟨i, inner, hinner, (ih inner (List.mem_of_getElem? hinner)).mpr ?_⟩
      refine ⟨rest, names', hat, ?_, ?_⟩
      · rw [hpath, List.append_assoc, List.singleton_append]
      · rw [haddress, innerAddress_cons]
        simp

end MessageDescriptor

namespace FileDescriptor

variable {file : FileDescriptor}

/-- **The messages of a file** are those to which indices lead, under their addresses. -/
theorem mem_messageNodes_iff {node : MessageNode} :
    node ∈ file.messageNodes ↔
      ∃ messages, file.messageAt? messages = some (node.path, node.message) ∧
        node.address = messageAddress messages := by
  rw [messageNodes, MessageDescriptor.mem_nodesOf_iff]
  constructor
  · rintro ⟨i, message, hmessage, hnode⟩
    obtain ⟨inner, names, hat, hpath, haddress⟩ := MessageDescriptor.mem_nodes_iff.mp hnode
    refine ⟨i :: inner, ?_, ?_⟩
    · rw [messageAt?, hmessage, Option.bind_some, hat, hpath, List.nil_append]
    · rw [haddress, Nat.zero_add]
      rfl
  · rintro ⟨messages, hat, haddress⟩
    cases messages with
    | nil => simp [messageAt?] at hat
    | cons i inner =>
      rw [messageAt?, Option.bind_eq_some_iff] at hat
      obtain ⟨message, hmessage, hat⟩ := hat
      refine ⟨i, message, hmessage, MessageDescriptor.mem_nodes_iff.mpr ?_⟩
      refine ⟨inner, node.path, hat, rfl, ?_⟩
      rw [haddress, Nat.zero_add]
      rfl

theorem ne_nil_of_messageAt? {messages : List Nat} {found : List Text × MessageDescriptor}
    (h : file.messageAt? messages = some found) : messages ≠ [] := by
  rintro rfl
  simp [messageAt?] at h

end FileDescriptor

/-! ## Enums

Enums stand in a list of the file or of a message. -/

theorem EnumDescriptor.mem_nodesOf_iff {nesting : List Text} {field : List Nat}
    {enums : List EnumDescriptor} {node : EnumNode} :
    node ∈ nodesOf nesting field enums ↔
      node.nesting = nesting ∧ ∃ i, enums[i]? = some node.enum ∧ node.address = field ++ [i] := by
  rw [nodesOf, List.mem_mapIdx]
  constructor
  · rintro ⟨i, hi, rfl⟩
    exact ⟨rfl, i, List.getElem?_eq_getElem hi, rfl⟩
  · rintro ⟨rfl, i, henum, haddress⟩
    obtain ⟨hi, henum⟩ := List.getElem?_eq_some_iff.mp henum
    refine ⟨i, hi, ?_⟩
    rw [henum, ← haddress]

namespace FileDescriptor

variable {file : FileDescriptor}

/-- The enum in a place is one of the file itself or one of a message. -/
theorem enumAt?_eq_some_iff {place : Place} {nesting : List Text} {enum : EnumDescriptor} :
    file.enumAt? place = some (nesting, enum) ↔
      (place.messages = [] ∧ nesting = [] ∧ file.enums[place.index]? = some enum) ∨
        ∃ message, file.messageAt? place.messages = some (nesting, message) ∧
          message.enums[place.index]? = some enum := by
  obtain ⟨messages, index⟩ := place
  cases messages with
  | nil =>
    simp only [enumAt?, messageAt?, Option.map_eq_some_iff, Prod.mk.injEq]
    constructor
    · rintro ⟨enum, henum, rfl, rfl⟩
      exact .inl ⟨trivial, rfl, henum⟩
    · rintro (⟨-, rfl, henum⟩ | ⟨message, hmessage, -⟩)
      · exact ⟨enum, henum, rfl, rfl⟩
      · simp at hmessage
  | cons i inner => simp [enumAt?, Option.bind_eq_some_iff, and_comm]

theorem fieldAt?_eq_some_iff {place : Place} {names : List Text} {field : FieldDescriptor} :
    file.fieldAt? place = some (names, field) ↔
      ∃ message, file.messageAt? place.messages = some (names, message) ∧
        message.fields[place.index]? = some field := by
  simp [fieldAt?, Option.bind_eq_some_iff, and_comm]

theorem messages_ne_nil_of_fieldAt? {place : Place} {found : List Text × FieldDescriptor}
    (h : file.fieldAt? place = some found) : place.messages ≠ [] := by
  obtain ⟨message, hat, -⟩ := fieldAt?_eq_some_iff.mp h
  exact ne_nil_of_messageAt? hat

/-- **The enums of a file** are those in its places, under their addresses. -/
theorem mem_enumNodes_iff {node : EnumNode} :
    node ∈ file.enumNodes ↔
      ∃ place, file.enumAt? place = some (node.nesting, node.enum) ∧
        node.address = place.enumAddress := by
  rw [enumNodes, List.mem_append, EnumDescriptor.mem_nodesOf_iff, List.mem_flatMap]
  constructor
  · rintro (⟨hnesting, i, henum, haddress⟩ | ⟨message, hmessage, hnode⟩)
    · exact ⟨⟨[], i⟩, enumAt?_eq_some_iff.mpr (.inl ⟨rfl, hnesting, henum⟩), haddress⟩
    · obtain ⟨messages, hat, hmessage⟩ := mem_messageNodes_iff.mp hmessage
      obtain ⟨hnesting, i, henum, haddress⟩ := EnumDescriptor.mem_nodesOf_iff.mp hnode
      refine ⟨⟨messages, i⟩, ?_, ?_⟩
      · rw [hnesting]
        exact enumAt?_eq_some_iff.mpr (.inr ⟨message.message, hat, henum⟩)
      · rw [haddress, hmessage, Place.enumAddress, if_neg (ne_nil_of_messageAt? hat),
          List.append_assoc]
        rfl
  · rintro ⟨place, hat, haddress⟩
    rcases enumAt?_eq_some_iff.mp hat with ⟨hmessages, hnesting, henum⟩ | ⟨message, hat, henum⟩
    · left
      rw [Place.enumAddress, if_pos hmessages] at haddress
      exact ⟨hnesting, place.index, henum, haddress⟩
    · right
      refine ⟨⟨node.nesting, messageAddress place.messages, message⟩,
        mem_messageNodes_iff.mpr ⟨_, hat, rfl⟩, ?_⟩
      refine EnumDescriptor.mem_nodesOf_iff.mpr ⟨rfl, place.index, henum, ?_⟩
      rw [haddress, Place.enumAddress, if_neg (ne_nil_of_messageAt? hat), List.append_assoc]
      rfl

/-! ## Enum fields -/

/-- **The enum fields of a file** are those in its places, under their addresses. -/
theorem mem_enumFieldNodes_iff {node : EnumFieldNode} :
    node ∈ file.enumFieldNodes ↔
      (∃ place, file.fieldAt? place = some (node.messagePath, node.field) ∧
        node.address = place.fieldAddress) ∧ node.field.isEnum = true := by
  rw [enumFieldNodes, List.mem_flatMap]
  constructor
  · rintro ⟨message, hmessage, hnode⟩
    obtain ⟨messages, hat, hmessage⟩ := mem_messageNodes_iff.mp hmessage
    obtain ⟨hnode, henum⟩ := List.mem_filter.mp hnode
    obtain ⟨i, hi, rfl⟩ := List.mem_mapIdx.mp hnode
    refine ⟨⟨⟨messages, i⟩, ?_, ?_⟩, henum⟩
    · exact fieldAt?_eq_some_iff.mpr ⟨message.message, hat, List.getElem?_eq_getElem hi⟩
    · exact congrArg (· ++ [2, i]) hmessage
  · rintro ⟨⟨place, hat, haddress⟩, henum⟩
    obtain ⟨message, hat, hfield⟩ := fieldAt?_eq_some_iff.mp hat
    obtain ⟨hi, hfield⟩ := List.getElem?_eq_some_iff.mp hfield
    refine ⟨⟨node.messagePath, messageAddress place.messages, message⟩,
      mem_messageNodes_iff.mpr ⟨_, hat, rfl⟩, List.mem_filter.mpr ⟨?_, henum⟩⟩
    refine List.mem_mapIdx.mpr ⟨place.index, hi, ?_⟩
    rw [hfield]
    change EnumFieldNode.mk node.messagePath place.fieldAddress node.field = node
    rw [← haddress]

end FileDescriptor

end EnumCodegen
