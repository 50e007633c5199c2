import EnumCodegen.Proofs.Schema.Order

/-!
# Enum fields find their enums

The walk collects enum fields before all enums of the file are known, so a field is resolved by the
full name of its enum when the walk is over. A field whose enum the file declares is listed with the
place of that enum among the enums of the file. Several enums may have one full name, and then the
first of them is taken.

## Main definitions

* `EnumField.Lists`: what is listed for a field

## Main results

* `FileDescriptor.declares_iff`: the full names of the enums of a file
* `FileDescriptor.exists_places_resolved`: the places of the fields whose enum the file declares
* `FileDescriptor.lists_of_resolve?`: what is listed for a field
* `FileDescriptor.node_of_mem_fields`: the node of a listed field
-/

namespace EnumCodegen

/-- **What is listed for a field** of a message with the given names down to it: a name, a path and a
storage, and the place of the first enum of the file with the full name that the field asks for. -/
structure EnumField.Lists (file : FileDescriptor) (names : List Text) (field : FieldDescriptor)
    (listed : EnumField) : Prop where
  messagePath_eq : listed.messagePath = names
  name_eq : listed.name = field.name
  storage_eq : listed.storage = field.storage file.isProto3
  found : ∃ enum, (EnumSchema.ofDescriptor file).enums[listed.enumIndex]? = some enum ∧
    enum.fullName = field.typeName
  first : ∀ i < listed.enumIndex, ∀ enum,
    (EnumSchema.ofDescriptor file).enums[i]? = some enum → enum.fullName ≠ field.typeName

namespace FileDescriptor

variable {file : FileDescriptor}

/-- The enums of a file by their full names. -/
theorem declares_iff {name : Text} :
    file.Declares name ↔ ∃ enum ∈ file.declarations, enum.fullName = name := by
  constructor
  · rintro ⟨place, nesting, enum, hat, hname⟩
    have hnode : ⟨nesting, place.enumAddress, enum⟩ ∈ file.enumNodes :=
      mem_enumNodes_iff.mpr ⟨place, hat, rfl⟩
    exact ⟨_, List.mem_map_of_mem hnode, hname⟩
  · rintro ⟨enum, henum, rfl⟩
    obtain ⟨node, hnode, rfl⟩ := List.mem_map.mp henum
    obtain ⟨place, hat, -⟩ := mem_enumNodes_iff.mp hnode
    exact ⟨place, node.nesting, node.enum, hat, rfl⟩

/-- A field is recorded if the file declares its enum. -/
theorem isSome_resolve?_iff {node : EnumFieldNode} :
    (node.resolve? file file.declarations).isSome = true ↔ file.Declares node.field.typeName := by
  rw [EnumFieldNode.resolve?, Option.isSome_map, List.findIdx?_isSome, List.any_eq_true,
    declares_iff]
  simp

/-- **What is listed for a field** is what looking up its enum gives. -/
theorem lists_of_resolve? {node : EnumFieldNode} {listed : EnumField}
    (h : node.resolve? file file.declarations = some listed) :
    listed.Lists file node.messagePath node.field := by
  obtain ⟨i, hfind, rfl⟩ := Option.map_eq_some_iff.mp h
  obtain ⟨hi, hfound, hfirst⟩ := List.findIdx?_eq_some_iff_getElem.mp hfind
  refine ⟨rfl, rfl, rfl, ?_, ?_⟩
  · exact ⟨file.declarations[i], List.getElem?_eq_getElem hi, of_decide_eq_true hfound⟩
  · intro j hj enum henum hname
    obtain ⟨hlength, rfl⟩ := List.getElem?_eq_some_iff.mp henum
    exact hfirst j hj (decide_eq_true hname)

/-- **The node of a listed field** is an attribute with its name, or an element with its name in
`UpperCamel` form. -/
theorem node_of_mem_fields {field : EnumField}
    (h : field ∈ (EnumSchema.ofDescriptor file).fields) :
    field.node = .attribute field.name ∨ field.node = .element (Text.upperCamel field.name) := by
  obtain ⟨node, -, hresolve⟩ := List.mem_filterMap.mp h
  obtain ⟨i, -, rfl⟩ := Option.map_eq_some_iff.mp hresolve
  change node.xmlNode file = _ ∨ node.xmlNode file = _
  unfold EnumFieldNode.xmlNode
  split
  · exact .inl rfl
  · exact .inr rfl

/-- **The places of the fields whose enum the file declares**, in order. -/
theorem exists_places_resolved (file : FileDescriptor) :
    ∃ places : List Place, places.Pairwise Place.Precedes ∧
      (∀ place, place ∈ places ↔ file.IsRecorded (.field place)) ∧
      List.Forall₂ (fun place node => file.fieldAt? place = some (node.messagePath, node.field) ∧
          node.address = place.fieldAddress)
        places (file.enumFieldNodes.filter (·.resolve? file file.declarations |>.isSome)) := by
  obtain ⟨places, horder, hmem, hstands⟩ :=
    file.exists_places_enumFieldNodes (·.resolve? file file.declarations |>.isSome)
  refine ⟨places, horder, ?_, hstands⟩
  intro place
  rw [hmem]
  constructor
  · rintro ⟨node, hnode, hat, -⟩
    obtain ⟨hnode, hresolve⟩ := List.mem_filter.mp hnode
    exact ⟨node.messagePath, node.field, hat, (mem_enumFieldNodes_iff.mp hnode).2,
      isSome_resolve?_iff.mp hresolve⟩
  · rintro ⟨names, field, hat, henum, hdeclares⟩
    refine ⟨⟨names, place.fieldAddress, field⟩, List.mem_filter.mpr ⟨?_, ?_⟩, hat, rfl⟩
    · exact mem_enumFieldNodes_iff.mpr ⟨⟨place, hat, rfl⟩, henum⟩
    · exact isSome_resolve?_iff.mpr hdeclares

/-- What holds of places and the members with a result holds of the places and the results. -/
theorem forall₂_filterMap {α β : Type} {result : α → Option β} {Stands : Place → α → Prop}
    {Records : Place → β → Prop} {members : List α} {places : List Place}
    (h : List.Forall₂ Stands places (members.filter (result · |>.isSome)))
    (hrecords : ∀ place a b, Stands place a → result a = some b → Records place b) :
    List.Forall₂ Records places (members.filterMap result) := by
  induction members generalizing places with
  | nil => simpa using h
  | cons a members ih =>
    cases hresult : result a with
    | none =>
      rw [List.filter_cons_of_neg (by simp [hresult])] at h
      rw [List.filterMap_cons_none hresult]
      exact ih h
    | some b =>
      rw [List.filter_cons_of_pos (by simp [hresult])] at h
      rw [List.filterMap_cons_some hresult]
      obtain ⟨place, places, hstands, hrest, rfl⟩ := List.forall₂_cons_right_iff.mp h
      exact .cons (hrecords place a b hstands hresult) (ih hrest)

end FileDescriptor

end EnumCodegen
