import EnumCodegen.Proofs.Schema.Tree

/-!
# The names of messages, enums and fields

An enum or field of a schema has a name of its own and the names of the messages around it. All of
them are names that the file gives to its messages, enums and fields, so what the file says about
these it says about every name that is made of them.

## Main definitions

* `FileDescriptor.typeNames`: the names of the messages and enums of a file
* `FileDescriptor.fieldNames`: the names of the fields of its messages

## Main results

* `FileDescriptor.mem_typeNames`: the names of an enum and of the messages around it
* `FileDescriptor.mem_fieldNames`: the name of a field and those of the messages around it
-/

namespace EnumCodegen

/-- **The names of the messages and enums of a file.** -/
def FileDescriptor.typeNames (file : FileDescriptor) : List Text :=
  file.messageNodes.map (·.message.name) ++ file.enumNodes.map (·.enum.name)

/-- **The names of the fields of the messages of a file.** -/
def FileDescriptor.fieldNames (file : FileDescriptor) : List Text :=
  file.messageNodes.flatMap (·.message.fields.map (·.name))

namespace MessageDescriptor

/-- The names down to a message are those above, and names of messages that the walk passes. -/
theorem name_of_mem_path {outer : List Text} {address : List Nat} {message : MessageDescriptor}
    {node : MessageNode} (hnode : node ∈ message.nodes outer address) {name : Text}
    (hname : name ∈ node.path) :
    name ∈ outer ∨ ∃ passed ∈ message.nodes outer address, passed.message.name = name := by
  -- a message hands on the names above it and its own, and those below are names of messages in it
  induction message using nested_induction generalizing outer address with
  | h message ih =>
    rw [nodes_eq, List.mem_cons] at hnode
    rw [nodes_eq]
    have hself (hname : name ∈ outer ++ [message.name]) :
        name ∈ outer ∨ ∃ passed ∈ (⟨outer ++ [message.name], address, message⟩ : MessageNode) ::
          nodesOf (outer ++ [message.name]) (address ++ [3]) 0 message.nested,
            passed.message.name = name := by
      rcases List.mem_append.mp hname with hname | hname
      · exact .inl hname
      · exact .inr ⟨_, List.mem_cons_self, (List.mem_singleton.mp hname).symm⟩
    rcases hnode with rfl | hnode
    · exact hself hname
    · obtain ⟨i, inner, hinner, hnode⟩ := mem_nodesOf_iff.mp hnode
      rcases ih inner (List.mem_of_getElem? hinner) hnode with hname | ⟨passed, hpassed, hname⟩
      · exact hself hname
      · refine .inr ⟨passed, List.mem_cons_of_mem _ ?_, hname⟩
        exact mem_nodesOf_iff.mpr ⟨i, inner, hinner, hpassed⟩

end MessageDescriptor

namespace FileDescriptor

variable {file : FileDescriptor}

/-- The names down to a message are names of messages. -/
theorem mem_typeNames_of_mem_path {node : MessageNode} (hnode : node ∈ file.messageNodes)
    {name : Text} (hname : name ∈ node.path) : name ∈ file.typeNames := by
  obtain ⟨i, message, hmessage, hnode⟩ := MessageDescriptor.mem_nodesOf_iff.mp hnode
  rcases MessageDescriptor.name_of_mem_path hnode hname with hname | ⟨passed, hpassed, rfl⟩
  · simp at hname
  · refine List.mem_append_left _ (List.mem_map_of_mem ?_)
    exact MessageDescriptor.mem_nodesOf_iff.mpr ⟨i, message, hmessage, hpassed⟩

/-- **The name of an enum and those of the messages around it** are names of the file. -/
theorem mem_typeNames {enum : DeclaredEnum} (henum : enum ∈ (EnumSchema.ofDescriptor file).enums) :
    ∀ name ∈ enum.nesting ++ [enum.name], name ∈ file.typeNames := by
  obtain ⟨node, hnode, rfl⟩ := List.mem_map.mp henum
  intro name hname
  rcases List.mem_append.mp hname with hname | hname
  · rcases List.mem_append.mp hnode with hnode | hnode
    · obtain ⟨hnesting, -⟩ := EnumDescriptor.mem_nodesOf_iff.mp hnode
      change name ∈ node.nesting at hname
      rw [hnesting] at hname
      simp at hname
    · obtain ⟨message, hmessage, hnode⟩ := List.mem_flatMap.mp hnode
      obtain ⟨hnesting, -⟩ := EnumDescriptor.mem_nodesOf_iff.mp hnode
      apply mem_typeNames_of_mem_path hmessage
      rw [← hnesting]
      exact hname
  · rw [List.mem_singleton.mp hname]
    exact List.mem_append_right _ (List.mem_map_of_mem hnode)

/-- **The name of a field and those of the messages around it** are names of the file. -/
theorem mem_fieldNames {field : EnumField} (hfield : field ∈ (EnumSchema.ofDescriptor file).fields) :
    (∀ name ∈ field.messagePath, name ∈ file.typeNames) ∧ field.name ∈ file.fieldNames := by
  obtain ⟨node, hnode, hresolve⟩ := List.mem_filterMap.mp hfield
  obtain ⟨i, -, rfl⟩ := Option.map_eq_some_iff.mp hresolve
  obtain ⟨message, hmessage, hnode⟩ := List.mem_flatMap.mp hnode
  obtain ⟨j, hj, rfl⟩ := List.mem_mapIdx.mp (List.mem_of_mem_filter hnode)
  constructor
  · intro name hname
    exact mem_typeNames_of_mem_path hmessage hname
  · exact List.mem_flatMap.mpr ⟨message, hmessage, List.mem_map_of_mem (List.getElem_mem hj)⟩

end FileDescriptor

end EnumCodegen
