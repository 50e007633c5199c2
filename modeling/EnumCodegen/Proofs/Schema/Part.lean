import EnumCodegen.Proofs.Schema.Fields

/-!
# Comments reach the parts they address

Looking up under the address of a part finds the last location that addresses the part. The walk
looks up under the addresses of the parts that it reaches, so each enum and each value gets the
comment on it, and a field that is recorded becomes an attribute if a comment on it asks for that.
What other locations say is never read.

## Main results

* `locationOf?_address`: the location that counts for a part is the one found under its address
* `recordsEnum_declaration`, `recordsField_of_resolve?`: what the walk records in a place
* `ofDescriptor_withLocations`: which locations a schema depends on
* `ofDescriptor_comments`: comments reach exactly the parts they address
-/

namespace EnumCodegen

namespace FileDescriptor

variable {file : FileDescriptor} {place : Place} {part : Part}

/-! ## Looking up under an address

A field outside all messages has an address that is read as no part, so what is said here of parts
is said of fields in messages only. No field stands outside them. -/

section LookUp

variable (h : ∀ place, part = .field place → place.messages ≠ [])

include h

/-- **The location that counts for a part** is the one found under its address. -/
theorem locationOf?_address : locationOf? file.locations part.address = file.locationOn? part := by
  have haddresses : (fun location : SourceLocation => location.addresses part.address) =
      fun location => decide (location.part? = some part) := by
    funext location
    rw [Bool.eq_iff_iff, decide_eq_true_iff]
    exact location.addresses_iff h
  rw [locationOf?, locationOn?, haddresses]

theorem leadingComment?_address :
    leadingComment? file.locations part.address = file.commentOn? part := by
  rw [leadingComment?, commentOn?, locationOf?_address h]

theorem mentions_address_iff :
    mentions file.locations part.address attributeMarker = true ↔ file.AsksForAttribute part := by
  rw [mentions, locationOf?_address h, Option.any_eq_true]
  simp only [AsksForAttribute, Bool.or_eq_true, Option.any_eq_true, Text.holds_iff_isInfix]
  constructor
  · rintro ⟨location, hlocation, ⟨comment, hcomment, hmarker⟩ | ⟨comment, hcomment, hmarker⟩⟩
    · exact ⟨location, hlocation, comment, .inl hcomment, hmarker⟩
    · exact ⟨location, hlocation, comment, .inr hcomment, hmarker⟩
  · rintro ⟨location, hlocation, comment, hcomment | hcomment, hmarker⟩
    · exact ⟨location, hlocation, .inl ⟨comment, hcomment, hmarker⟩⟩
    · exact ⟨location, hlocation, .inr ⟨comment, hcomment, hmarker⟩⟩

end LookUp

theorem leadingComment?_enumAddress :
    leadingComment? file.locations place.enumAddress = file.commentOn? (.enum place) :=
  @leadingComment?_address file (.enum place) (by simp)

theorem leadingComment?_valueAddress (j : Nat) :
    leadingComment? file.locations (place.enumAddress ++ [2, j]) =
      file.commentOn? (.value place j) :=
  @leadingComment?_address file (.value place j) (by simp)

/-! ## What the walk records -/

/-- **The record of an enum** carries the comments on it and on its values. -/
theorem recordsEnum_declaration {node : EnumNode}
    (hat : file.enumAt? place = some (node.nesting, node.enum))
    (haddress : node.address = place.enumAddress) :
    file.RecordsEnum place (node.declaration file) := by
  refine ⟨node.enum, hat, rfl, ?_, ?_⟩
  · rw [EnumNode.declaration, haddress, leadingComment?_enumAddress]
  · simp only [EnumNode.declaration, haddress, leadingComment?_valueAddress]

/-- A field is an attribute if its comments ask for it. -/
theorem xmlNode_eq_attribute_iff {node : EnumFieldNode} (hmessages : place.messages ≠ [])
    (haddress : node.address = place.fieldAddress) :
    (∃ name, node.xmlNode file = .attribute name) ↔ file.AsksForAttribute (.field place) := by
  have hproper : ∀ place', Part.field place = .field place' → place'.messages ≠ [] := by
    intro place' heq
    rwa [← Part.field.inj heq]
  rw [← mentions_address_iff hproper, EnumFieldNode.xmlNode, haddress]
  change _ ↔ mentions file.locations place.fieldAddress attributeMarker = true
  split
  · next hmentions => exact ⟨fun _ => hmentions, fun _ => ⟨_, rfl⟩⟩
  · next hmentions => simp [hmentions]

/-- **The record of a field** is bound as the comments on it ask. -/
theorem recordsField_of_resolve? {node : EnumFieldNode} {enums : List DeclaredEnum}
    {recorded : EnumField} (hat : file.fieldAt? place = some (node.messagePath, node.field))
    (haddress : node.address = place.fieldAddress)
    (hrecorded : node.resolve? file enums = some recorded) :
    file.RecordsField place recorded := by
  obtain ⟨i, -, rfl⟩ := Option.map_eq_some_iff.mp hrecorded
  exact ⟨node.field, hat, rfl,
    xmlNode_eq_attribute_iff (messages_ne_nil_of_fieldAt? hat) haddress⟩

/-- **Every enum is recorded once**, with the comments on it. -/
theorem exists_places_enums (file : FileDescriptor) :
    ∃ places : List Place, places.Nodup ∧
      (∀ place, place ∈ places ↔ file.IsRecorded (.enum place)) ∧
      List.Forall₂ file.RecordsEnum places (EnumSchema.ofDescriptor file).enums := by
  obtain ⟨places, horder, hmem, hstands⟩ := file.exists_places_enumNodes
  refine ⟨places, horder.imp Place.Precedes.ne, hmem, ?_⟩
  change List.Forall₂ file.RecordsEnum places (file.enumNodes.map (·.declaration file))
  rw [List.forall₂_map_right_iff]
  exact hstands.imp fun place node h => recordsEnum_declaration h.1 h.2

/-- **Every enum field whose enum the file declares is recorded once**, bound as its comments
ask. -/
theorem exists_places_fields (file : FileDescriptor) :
    ∃ places : List Place, places.Nodup ∧
      (∀ place, place ∈ places ↔ file.IsRecorded (.field place)) ∧
      List.Forall₂ file.RecordsField places (EnumSchema.ofDescriptor file).fields := by
  obtain ⟨places, horder, hmem, hstands⟩ := file.exists_places_resolved
  refine ⟨places, horder.imp Place.Precedes.ne, hmem, ?_⟩
  exact forall₂_filterMap hstands fun place node recorded h hresolve =>
    recordsField_of_resolve? h.1 h.2 hresolve

/-! ## The locations that matter

Everything a schema takes from the locations of a file it looks up under the address of a part that
it records. Two lists of locations that agree on these parts lead to the same schema. -/

section Locations

variable {locations locations' : List SourceLocation}
  (h : ∀ part, file.IsRecorded part →
    (file.withLocations locations).locationOn? part =
      (file.withLocations locations').locationOn? part)

include h

theorem locationOf?_withLocations (hpart : file.IsRecorded part) :
    locationOf? locations part.address = locationOf? locations' part.address := by
  have hproper : ∀ place, part = .field place → place.messages ≠ [] := by
    rintro place rfl
    obtain ⟨names, field, hat, -⟩ := hpart
    exact messages_ne_nil_of_fieldAt? hat
  calc locationOf? locations part.address
      = (file.withLocations locations).locationOn? part :=
        @locationOf?_address (file.withLocations locations) part hproper
    _ = (file.withLocations locations').locationOn? part := h part hpart
    _ = locationOf? locations' part.address :=
        (@locationOf?_address (file.withLocations locations') part hproper).symm

theorem leadingComment?_withLocations (hpart : file.IsRecorded part) :
    leadingComment? locations part.address = leadingComment? locations' part.address := by
  rw [leadingComment?, leadingComment?, locationOf?_withLocations h hpart]

theorem mentions_withLocations (hpart : file.IsRecorded part) (marker : Text) :
    mentions locations part.address marker = mentions locations' part.address marker := by
  rw [mentions, mentions, locationOf?_withLocations h hpart]

theorem declaration_withLocations {node : EnumNode} (hnode : node ∈ file.enumNodes) :
    node.declaration (file.withLocations locations) =
      node.declaration (file.withLocations locations') := by
  obtain ⟨place, hat, haddress⟩ := mem_enumNodes_iff.mp hnode
  have hcomment : leadingComment? locations node.address =
      leadingComment? locations' node.address := by
    have henum : file.IsRecorded (.enum place) := ⟨_, _, hat⟩
    rw [haddress]
    exact leadingComment?_withLocations h henum
  have hvalues : ∀ j < node.enum.values.length,
      leadingComment? locations (node.address ++ [2, j]) =
        leadingComment? locations' (node.address ++ [2, j]) := by
    intro j hj
    have hvalue : file.IsRecorded (.value place j) := ⟨_, _, hat, hj⟩
    rw [haddress]
    exact leadingComment?_withLocations h hvalue
  simp only [EnumNode.declaration, DeclaredEnum.mk.injEq]
  refine ⟨trivial, rfl, trivial, ?_, hcomment⟩
  rw [List.mapIdx_eq_mapIdx_iff]
  intro j hj
  exact congrArg (DeclaredValue.mk _ _) (hvalues j hj)

theorem declarations_withLocations :
    (file.withLocations locations).declarations = (file.withLocations locations').declarations :=
  List.map_congr_left fun _ hnode => declaration_withLocations h hnode

theorem resolve?_withLocations {node : EnumFieldNode} (hnode : node ∈ file.enumFieldNodes)
    {enums : List DeclaredEnum} (henums : enums = (file.withLocations locations).declarations) :
    node.resolve? (file.withLocations locations) enums =
      node.resolve? (file.withLocations locations') enums := by
  obtain ⟨⟨place, hat, haddress⟩, henum⟩ := mem_enumFieldNodes_iff.mp hnode
  cases hfind : enums.findIdx? (·.fullName = node.field.typeName) with
  | none =>
    -- without an enum of the file nothing is recorded, whatever the comments say
    rw [EnumFieldNode.resolve?, EnumFieldNode.resolve?, hfind]
    rfl
  | some i =>
    have hresolve : (node.resolve? (file.withLocations locations)
        (file.withLocations locations).declarations).isSome = true := by
      rw [EnumFieldNode.resolve?, ← henums, hfind]
      rfl
    have hfield : file.IsRecorded (.field place) :=
      ⟨_, _, hat, henum, (@isSome_resolve?_iff (file.withLocations locations) node).mp hresolve⟩
    have hmentions : mentions locations node.address attributeMarker =
        mentions locations' node.address attributeMarker := by
      rw [haddress]
      exact mentions_withLocations h hfield attributeMarker
    have hxml : node.xmlNode (file.withLocations locations) =
        node.xmlNode (file.withLocations locations') := by
      rw [EnumFieldNode.xmlNode, EnumFieldNode.xmlNode]
      exact congrArg (fun asks : Bool => if asks = true then XmlNode.attribute node.field.name
        else .element (Text.upperCamel node.field.name)) hmentions
    rw [EnumFieldNode.resolve?, EnumFieldNode.resolve?, hxml]
    rfl

/-- **A schema depends on no more than the locations that count** for what it records. -/
theorem ofDescriptor_withLocations :
    EnumSchema.ofDescriptor (file.withLocations locations) =
      EnumSchema.ofDescriptor (file.withLocations locations') := by
  have henums := declarations_withLocations h
  have hfields : file.enumFieldNodes.filterMap
        (·.resolve? (file.withLocations locations) (file.withLocations locations).declarations) =
      file.enumFieldNodes.filterMap
        (·.resolve? (file.withLocations locations') (file.withLocations locations').declarations) := by
    apply List.filterMap_congr
    intro node hnode
    rw [← henums]
    exact resolve?_withLocations h hnode rfl
  simp only [EnumSchema.ofDescriptor, EnumSchema.mk.injEq]
  exact ⟨rfl, rfl, rfl, henums, hfields⟩

end Locations

/-- A location that does not address a part does not count for it. -/
theorem locationOn?_insert {location : SourceLocation} (h : location.part? ≠ some part)
    (before after : List SourceLocation) :
    (file.withLocations (before ++ location :: after)).locationOn? part =
      (file.withLocations (before ++ after)).locationOn? part := by
  change (before ++ location :: after).findRev? _ = (before ++ after).findRev? _
  rw [List.findRev?_eq_find?_reverse, List.findRev?_eq_find?_reverse]
  simp [h]

/-- **Comments reach exactly the parts they address.** The schema records every enum of the file,
and every enum field whose enum the file declares, once. Each enum and each value has the comment of
the last location that addresses it, and a field is an attribute if the last location that addresses
it asks for that. Locations that address none of these parts change nothing. -/
theorem ofDescriptor_comments (file : FileDescriptor) :
    (∃ places : List Place, places.Nodup ∧
      (∀ place, place ∈ places ↔ file.IsRecorded (.enum place)) ∧
      List.Forall₂ file.RecordsEnum places (EnumSchema.ofDescriptor file).enums) ∧
    (∃ places : List Place, places.Nodup ∧
      (∀ place, place ∈ places ↔ file.IsRecorded (.field place)) ∧
      List.Forall₂ file.RecordsField places (EnumSchema.ofDescriptor file).fields) ∧
    ∀ before location after,
      (∀ part, location.part? = some part → ¬ file.IsRecorded part) →
        EnumSchema.ofDescriptor (file.withLocations (before ++ location :: after)) =
          EnumSchema.ofDescriptor (file.withLocations (before ++ after)) := by
  refine ⟨exists_places_enums file, exists_places_fields file, ?_⟩
  intro before location after hnone
  apply ofDescriptor_withLocations
  intro part hpart
  exact locationOn?_insert (fun hlocation => hnone part hlocation hpart) before after

/-- A file with a message in a message, and an enum in the inner one. -/
def nestedKind : FileDescriptor where
  messages :=
    [{ name? := "Outer".toList
       nested := [{ name? := "Inner".toList, enums := [{ name? := "Kind".toList }] }] }]

/-- The path `4, 0, 3, 0, 4, 0` leads to the enum. The path `4, 0, 4, 0` would lead to an enum of the
outer message, which has none, and the comment there is not read. -/
theorem ofDescriptor_comments_nestedKind :
    (EnumSchema.ofDescriptor (nestedKind.withLocations
        [{ path := [4, 0, 3, 0, 4, 0], leading? := " inner\n".toList },
          { path := [4, 0, 4, 0], leading? := " outer\n".toList }])).enums.map
      (fun declared => (declared.name, declared.comment?)) =
        [("Kind".toList, some "inner".toList)] := by
  have hnone : ∀ part,
      SourceLocation.part? { path := [4, 0, 4, 0], leading? := " outer\n".toList } = some part →
        ¬ nestedKind.IsRecorded part := by
    intro part hpart
    obtain rfl := Option.some.inj hpart
    rintro ⟨nesting, enum, hat⟩
    simp [nestedKind, enumAt?, messageAt?, MessageDescriptor.at?] at hat
  have hdrop := (ofDescriptor_comments nestedKind).2.2
    [{ path := [4, 0, 3, 0, 4, 0], leading? := " inner\n".toList }] _ [] hnone
  rw [List.singleton_append, List.append_nil] at hdrop
  rw [hdrop]
  decide

end FileDescriptor

end EnumCodegen
