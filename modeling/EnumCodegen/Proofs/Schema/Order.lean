import EnumCodegen.Proofs.Schema.Tree
import Mathlib.Data.List.Forall2
import Mathlib.Data.List.Pairwise

/-!
# The walk goes through the tree in order

The walk visits a message before the messages in it, and those in one message before those in the
next. In terms of the indices down to a message this is the lexicographic order, in which a list
comes before the lists that it begins. Enums and fields follow their messages, and in one message
their own indices. So the places of what the walk lists are in strict order, and listing the places
along with the nodes leaves none out and names none twice.

## Main definitions

* `Place.Precedes`: the order of places

## Main results

* `MessageDescriptor.pairwise_nodes`, `FileDescriptor.pairwise_messageNodes`: the order of messages
* `FileDescriptor.pairwise_enumNodes`, `FileDescriptor.pairwise_enumFieldNodes`: the order of enums
  and of enum fields
* `FileDescriptor.exists_places_enumNodes`, `FileDescriptor.exists_places_enumFieldNodes`: their
  places, in order
-/

namespace EnumCodegen

/-- **The order of places**: by the indices of the messages around them, so that a message comes
before the messages in it, and in one message by their own indices. What stands outside all messages
comes first. -/
def Place.Precedes (place place' : Place) : Prop :=
  List.Lex (· < ·) place.messages place'.messages ∨
    place.messages = place'.messages ∧ place.index < place'.index

/-- A place comes before other places only. -/
theorem Place.Precedes.ne {place place' : Place} (h : place.Precedes place') : place ≠ place' := by
  rintro rfl
  rcases h with hmessages | ⟨-, hindex⟩
  · exact List.lex_irrefl Nat.lt_irrefl _ hmessages
  · exact Nat.lt_irrefl _ hindex

/-! ## Messages

The order of two nodes is read off their addresses. Below a common address these are the indices that
lead there. -/

namespace MessageDescriptor

variable {outer : List Text} {address field : List Nat} {message : MessageDescriptor}
  {messages : List MessageDescriptor}

/-- The nodes of a list of messages are in order, if those of each message are. -/
theorem pairwise_nodesOf
    (h : ∀ message ∈ messages, ∀ outer address,
      (message.nodes outer address).Pairwise fun node node' =>
        ∃ inner inner', node.address = address ++ innerAddress inner ∧
          node'.address = address ++ innerAddress inner' ∧ List.Lex (· < ·) inner inner') (k : Nat) :
    (nodesOf outer field k messages).Pairwise fun node node' =>
      ∃ i inner i' inner', node.address = field ++ i :: innerAddress inner ∧
        node'.address = field ++ i' :: innerAddress inner' ∧
          List.Lex (· < ·) (i :: inner) (i' :: inner') := by
  induction messages generalizing k with
  | nil => simp [nodesOf]
  | cons first rest ih =>
    rw [nodesOf, List.pairwise_append]
    refine ⟨?_, ih (fun message hmessage => h message (List.mem_cons_of_mem _ hmessage)) _, ?_⟩
    · -- within the first message the indices below it decide
      apply (h first List.mem_cons_self _ _).imp
      rintro node node' ⟨inner, inner', haddress, haddress', hlex⟩
      refine ⟨k, inner, k, inner', ?_, ?_, .cons hlex⟩
      · rw [haddress, List.append_assoc, List.singleton_append]
      · rw [haddress', List.append_assoc, List.singleton_append]
    · -- the first message has the index `k`, and the others have later ones
      intro node hnode node' hnode'
      obtain ⟨inner, names, -, -, haddress⟩ := mem_nodes_iff.mp hnode
      obtain ⟨i, message, -, hnode'⟩ := mem_nodesOf_iff.mp hnode'
      obtain ⟨inner', names', -, -, haddress'⟩ := mem_nodes_iff.mp hnode'
      refine ⟨k, inner, k + 1 + i, inner', ?_, ?_, .rel (by omega)⟩
      · rw [haddress, List.append_assoc, List.singleton_append]
      · rw [haddress', List.append_assoc, List.singleton_append]

/-- **The nodes of a message are in order**: first the message itself, then those in it. -/
theorem pairwise_nodes (message : MessageDescriptor) (outer : List Text) (address : List Nat) :
    (message.nodes outer address).Pairwise fun node node' =>
      ∃ inner inner', node.address = address ++ innerAddress inner ∧
        node'.address = address ++ innerAddress inner' ∧ List.Lex (· < ·) inner inner' := by
  induction message using nested_induction generalizing outer address with
  | h message ih =>
  rw [nodes_eq, List.pairwise_cons]
  constructor
  · intro node hnode
    obtain ⟨i, inner, -, hnode⟩ := mem_nodesOf_iff.mp hnode
    obtain ⟨rest, names, -, -, haddress⟩ := mem_nodes_iff.mp hnode
    refine ⟨[], (0 + i) :: rest, ?_, ?_, .nil⟩
    · rw [innerAddress_nil, List.append_nil]
    · rw [haddress, innerAddress_cons]
      simp
  · apply (pairwise_nodesOf ih 0).imp
    rintro node node' ⟨i, inner, i', inner', haddress, haddress', hlex⟩
    refine ⟨i :: inner, i' :: inner', ?_, ?_, hlex⟩
    · rw [haddress, innerAddress_cons, List.append_assoc, List.singleton_append]
    · rw [haddress', innerAddress_cons, List.append_assoc, List.singleton_append]

end MessageDescriptor

/-! ## Enums and fields -/

/-- The items of a numbered list are in the order of their numbers. -/
theorem pairwise_mapIdx {α β : Type} (item : Nat → α → β) (items : List α) :
    (items.mapIdx item).Pairwise fun b b' => ∃ i a j a', b = item i a ∧ b' = item j a' ∧ i < j := by
  rw [List.pairwise_iff_getElem]
  intro i j hi hj hij
  rw [List.length_mapIdx] at hi hj
  exact ⟨i, items[i], j, items[j], List.getElem_mapIdx, List.getElem_mapIdx, hij⟩

namespace FileDescriptor

variable {file : FileDescriptor}

/-- **The messages of a file are in order.** -/
theorem pairwise_messageNodes (file : FileDescriptor) :
    file.messageNodes.Pairwise fun node node' =>
      ∃ messages messages', node.address = messageAddress messages ∧
        node'.address = messageAddress messages' ∧ messages ≠ [] ∧ messages' ≠ [] ∧
          List.Lex (· < ·) messages messages' := by
  apply (MessageDescriptor.pairwise_nodesOf (fun message _ => message.pairwise_nodes) 0).imp
  rintro node node' ⟨i, inner, i', inner', haddress, haddress', hlex⟩
  exact ⟨i :: inner, i' :: inner', haddress, haddress', by simp, by simp, hlex⟩

/-- **What stands in numbered lists of the messages is in order.** -/
theorem pairwise_flatMap_messageNodes {α : Type} {parts : MessageNode → List α} {key : α → List Nat}
    (number : Nat)
    (hkey : ∀ node, ∀ part ∈ parts node, ∃ i, key part = node.address ++ [number, i])
    (hparts : ∀ node, (parts node).Pairwise fun part part' =>
      ∃ i j, key part = node.address ++ [number, i] ∧ key part' = node.address ++ [number, j] ∧
        i < j) :
    (file.messageNodes.flatMap parts).Pairwise fun part part' =>
      ∃ place place' : Place, place.messages ≠ [] ∧ place'.messages ≠ [] ∧
        key part = messageAddress place.messages ++ [number, place.index] ∧
        key part' = messageAddress place'.messages ++ [number, place'.index] ∧
          place.Precedes place' := by
  rw [List.pairwise_flatMap]
  constructor
  · intro node hnode
    obtain ⟨messages, hat, haddress⟩ := mem_messageNodes_iff.mp hnode
    apply (hparts node).imp
    rintro part part' ⟨i, j, hpart, hpart', hij⟩
    have hmessages := ne_nil_of_messageAt? hat
    rw [haddress] at hpart hpart'
    exact ⟨⟨messages, i⟩, ⟨messages, j⟩, hmessages, hmessages, hpart, hpart', .inr ⟨rfl, hij⟩⟩
  · apply file.pairwise_messageNodes.imp
    rintro node node' ⟨messages, messages', haddress, haddress', hne, hne', hlex⟩
      part hpart part' hpart'
    obtain ⟨i, hpart⟩ := hkey node part hpart
    obtain ⟨j, hpart'⟩ := hkey node' part' hpart'
    rw [haddress] at hpart
    rw [haddress'] at hpart'
    exact ⟨⟨messages, i⟩, ⟨messages', j⟩, hne, hne', hpart, hpart', .inl hlex⟩

theorem address_of_mem_enumNodes {message : MessageNode} {node : EnumNode}
    (h : node ∈ message.enumNodes) : ∃ i, node.address = message.address ++ [4, i] := by
  obtain ⟨-, i, -, haddress⟩ := EnumDescriptor.mem_nodesOf_iff.mp h
  refine ⟨i, ?_⟩
  rw [haddress, List.append_assoc]
  rfl

/-- **The enums of a file are in order.** -/
theorem pairwise_enumNodes (file : FileDescriptor) :
    file.enumNodes.Pairwise fun node node' =>
      ∃ place place' : Place, node.address = place.enumAddress ∧
        node'.address = place'.enumAddress ∧ place.Precedes place' := by
  rw [enumNodes, List.pairwise_append]
  refine ⟨?_, ?_, ?_⟩
  · apply (pairwise_mapIdx _ file.enums).imp
    rintro node node' ⟨i, enum, j, enum', rfl, rfl, hij⟩
    exact ⟨⟨[], i⟩, ⟨[], j⟩, rfl, rfl, .inr ⟨rfl, hij⟩⟩
  · have hlist (message : MessageNode) : message.enumNodes.Pairwise fun node node' =>
        ∃ i j, node.address = message.address ++ [4, i] ∧
          node'.address = message.address ++ [4, j] ∧ i < j := by
      apply (pairwise_mapIdx _ message.message.enums).imp
      rintro node node' ⟨i, enum, j, enum', rfl, rfl, hij⟩
      refine ⟨i, j, ?_, ?_, hij⟩
      · rw [List.append_assoc, List.singleton_append]
      · rw [List.append_assoc, List.singleton_append]
    apply (pairwise_flatMap_messageNodes 4 (fun _ _ => address_of_mem_enumNodes) hlist).imp
    rintro node node' ⟨place, place', hne, hne', haddress, haddress', hprecedes⟩
    refine ⟨place, place', ?_, ?_, hprecedes⟩
    · rw [haddress, Place.enumAddress, if_neg hne]
    · rw [haddress', Place.enumAddress, if_neg hne']
  · -- what stands outside all messages comes before what stands in one
    intro node hnode node' hnode'
    obtain ⟨-, i, -, haddress⟩ := EnumDescriptor.mem_nodesOf_iff.mp hnode
    obtain ⟨message, hmessage, hnode'⟩ := List.mem_flatMap.mp hnode'
    obtain ⟨messages, hat, hmessage⟩ := mem_messageNodes_iff.mp hmessage
    obtain ⟨j, haddress'⟩ := address_of_mem_enumNodes hnode'
    obtain ⟨k, inner, rfl⟩ := List.exists_cons_of_ne_nil (ne_nil_of_messageAt? hat)
    refine ⟨⟨[], i⟩, ⟨k :: inner, j⟩, haddress, ?_, .inl .nil⟩
    rw [haddress', hmessage]
    rfl

/-- **The enum fields of a file are in order.** -/
theorem pairwise_enumFieldNodes (file : FileDescriptor) :
    file.enumFieldNodes.Pairwise fun node node' =>
      ∃ place place' : Place, place.messages ≠ [] ∧ place'.messages ≠ [] ∧
        node.address = place.fieldAddress ∧ node'.address = place'.fieldAddress ∧
          place.Precedes place' := by
  apply pairwise_flatMap_messageNodes 2
  · intro message node hnode
    obtain ⟨i, -, rfl⟩ := List.mem_mapIdx.mp (List.mem_filter.mp hnode).1
    exact ⟨i, rfl⟩
  · intro message
    apply List.Pairwise.filter
    apply (pairwise_mapIdx _ message.message.fields).imp
    rintro node node' ⟨i, field, j, field', rfl, rfl, hij⟩
    exact ⟨i, j, rfl, rfl, hij⟩

/-! ## Places

The walk yields nodes and not places. But each node stands in one place, which its address tells, so
the places can be listed along with the nodes. -/

/-- **The places of nodes, in order.** -/
theorem exists_places {α : Type} (Stands : Place → α → Prop) {nodes : List α}
    (hplace : ∀ node ∈ nodes, ∃ place, Stands place node)
    (hunique : ∀ place place' node, Stands place node → Stands place' node → place = place')
    (horder : nodes.Pairwise fun node node' =>
      ∀ place place', Stands place node → Stands place' node' → place.Precedes place') :
    ∃ places : List Place, places.Pairwise Place.Precedes ∧
      (∀ place, place ∈ places ↔ ∃ node ∈ nodes, Stands place node) ∧
      List.Forall₂ Stands places nodes := by
  choose! place hstands using hplace
  refine ⟨nodes.map place, ?_, ?_, ?_⟩
  · rw [List.pairwise_map]
    apply horder.imp_of_mem
    intro node node' hnode hnode' hprecedes
    exact hprecedes _ _ (hstands node hnode) (hstands node' hnode')
  · intro place'
    rw [List.mem_map]
    constructor
    · rintro ⟨node, hnode, rfl⟩
      exact ⟨node, hnode, hstands node hnode⟩
    · rintro ⟨node, hnode, h⟩
      exact ⟨node, hnode, hunique _ _ node (hstands node hnode) h⟩
  · rw [List.forall₂_map_left_iff, List.forall₂_same]
    exact hstands

/-- **The places of the enums of a file, in order.** -/
theorem exists_places_enumNodes (file : FileDescriptor) :
    ∃ places : List Place, places.Pairwise Place.Precedes ∧
      (∀ place, place ∈ places ↔ ∃ nesting enum, file.enumAt? place = some (nesting, enum)) ∧
      List.Forall₂ (fun place node => file.enumAt? place = some (node.nesting, node.enum) ∧
        node.address = place.enumAddress) places file.enumNodes := by
  let Stands (place : Place) (node : EnumNode) : Prop :=
    file.enumAt? place = some (node.nesting, node.enum) ∧ node.address = place.enumAddress
  have horder : file.enumNodes.Pairwise fun node node' =>
      ∀ place place', Stands place node → Stands place' node' → place.Precedes place' := by
    apply file.pairwise_enumNodes.imp
    rintro node node' ⟨place₁, place₂, haddress₁, haddress₂, hprecedes⟩ place place'
      ⟨-, haddress⟩ ⟨-, haddress'⟩
    rwa [Place.enumAddress_injective (haddress.symm.trans haddress₁),
      Place.enumAddress_injective (haddress'.symm.trans haddress₂)]
  have hunique : ∀ place place' node, Stands place node → Stands place' node → place = place' := by
    rintro place place' node ⟨-, haddress⟩ ⟨-, haddress'⟩
    exact Place.enumAddress_injective (haddress.symm.trans haddress')
  obtain ⟨places, hplaces, hmem, hstands⟩ :=
    exists_places Stands (fun node hnode => mem_enumNodes_iff.mp hnode) hunique horder
  refine ⟨places, hplaces, ?_, hstands⟩
  intro place
  rw [hmem]
  constructor
  · rintro ⟨node, -, hat, -⟩
    exact ⟨node.nesting, node.enum, hat⟩
  · rintro ⟨nesting, enum, hat⟩
    exact ⟨⟨nesting, place.enumAddress, enum⟩, mem_enumNodes_iff.mpr ⟨place, hat, rfl⟩, hat, rfl⟩

/-- **The places of some of the enum fields of a file, in order.** -/
theorem exists_places_enumFieldNodes (file : FileDescriptor) (p : EnumFieldNode → Bool) :
    ∃ places : List Place, places.Pairwise Place.Precedes ∧
      (∀ place, place ∈ places ↔ ∃ node ∈ file.enumFieldNodes.filter p,
        file.fieldAt? place = some (node.messagePath, node.field) ∧
          node.address = place.fieldAddress) ∧
      List.Forall₂ (fun place node => file.fieldAt? place = some (node.messagePath, node.field) ∧
        node.address = place.fieldAddress) places (file.enumFieldNodes.filter p) := by
  apply exists_places
  · intro node hnode
    exact (mem_enumFieldNodes_iff.mp (List.mem_of_mem_filter hnode)).1
  · rintro place place' node ⟨hat, haddress⟩ ⟨hat', haddress'⟩
    exact Place.fieldAddress_injective (messages_ne_nil_of_fieldAt? hat)
      (messages_ne_nil_of_fieldAt? hat') (haddress.symm.trans haddress')
  · apply (file.pairwise_enumFieldNodes.filter p).imp
    rintro node node' ⟨place₁, place₂, hne₁, hne₂, haddress₁, haddress₂, hprecedes⟩ place place'
      ⟨hat, haddress⟩ ⟨hat', haddress'⟩
    rwa [Place.fieldAddress_injective (messages_ne_nil_of_fieldAt? hat) hne₁
        (haddress.symm.trans haddress₁),
      Place.fieldAddress_injective (messages_ne_nil_of_fieldAt? hat') hne₂
        (haddress'.symm.trans haddress₂)]

end FileDescriptor

end EnumCodegen
