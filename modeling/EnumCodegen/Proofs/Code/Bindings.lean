import EnumCodegen.Proofs.Code.Modules
import EnumCodegen.Proofs.Code.Reading
import EnumCodegen.Proofs.Schema.Fields

/-!
# Bindings refer to adapters of the same code

A field that is listed in a schema has the place of its enum, and the XML code for the file defines a
module of adapters for every enum, in the same order. So the binding of the field finds its enum, and
the path that it re-exports leads to an adapter that the same code defines. The lines of the code hold
these modules whatever the names in the file are. They are read from its text too, unless a name in a
comment breaks a line.

## Main definitions

* `Code.DefinedModule.Serves`: the path of the adapter for a storage

## Main results

* `FileDescriptor.modules_xmlCode`: the modules in the XML code for a file
* `FileDescriptor.ofDescriptor_fields`: the fields of a schema and their bindings
-/

namespace EnumCodegen

open Code

/-- **The path of the adapter for a storage** in a module of adapters: that of the module itself, or
of a part of it. The module to which the path leads defines the functions of an adapter. -/
inductive Code.DefinedModule.Serves (adapters : DefinedModule) : FieldStorage → Text → Prop where
  | singular : adapters.IsAdapter → adapters.Serves .singular adapters.name
  | optional (part : DefinedModule) : part ∈ adapters.parts → part.name = "option" →
      part.IsAdapter → adapters.Serves .optional (adapters.name ++ "::option")
  | repeated (part : DefinedModule) : part ∈ adapters.parts → part.name = "vec" →
      part.IsAdapter → adapters.Serves .repeated (adapters.name ++ "::vec")

/-- The path in a binding is that of an adapter for the storage of its field. -/
theorem serves_adapterPath (enum : DeclaredEnum) (storage : FieldStorage) :
    (adapterModule .xml enum).defined.Serves storage (adapterPath enum storage) := by
  obtain ⟨hnames, hadapters⟩ := (adapterModule .xml enum).parts_defined
  have hpart {name : Text} (hname : name ∈ ["option".toList, "vec".toList]) :
      ∃ part ∈ (adapterModule .xml enum).defined.parts, part.name = name := by
    rw [← hnames] at hname
    exact List.mem_map.mp hname
  cases storage with
  | singular => exact .singular (adapterModule .xml enum).isAdapter_defined
  | optional =>
    have hpath : adapterPath enum .optional =
        (adapterModule .xml enum).defined.name ++ "::option" := List.append_assoc _ _ _
    obtain ⟨part, hmem, hname⟩ := hpart List.mem_cons_self
    rw [hpath]
    exact .optional part hmem hname (hadapters part hmem)
  | repeated =>
    have hpath : adapterPath enum .repeated =
        (adapterModule .xml enum).defined.name ++ "::vec" := List.append_assoc _ _ _
    obtain ⟨part, hmem, hname⟩ := hpart (List.mem_cons_of_mem _ List.mem_cons_self)
    rw [hpath]
    exact .repeated part hmem hname (hadapters part hmem)

/-- What one of the items for an enum has, and the other has not, is had once for every enum. -/
theorem filterMap_formatItems {α : Type} {result : Item → Option α} {ofEnum : DeclaredEnum → α}
    {format : TextFormat} (h : ∀ enum, (formatItems format enum).filterMap result = [ofEnum enum])
    (enums : List DeclaredEnum) :
    (enums.flatMap (formatItems format)).filterMap result = enums.map ofEnum := by
  rw [List.filterMap_flatMap, List.map_eq_flatMap]
  exact List.flatMap_congr fun enum _ => h enum

namespace FileDescriptor

variable {file : FileDescriptor} {field : EnumField}

/-- The place that is listed for a field is that of an enum. -/
theorem exists_enum_of_mem_fields (h : field ∈ (EnumSchema.ofDescriptor file).fields) :
    ∃ enum, (EnumSchema.ofDescriptor file).enums[field.enumIndex]? = some enum := by
  obtain ⟨node, -, hresolve⟩ := List.mem_filterMap.mp h
  obtain ⟨enum, henum, -⟩ := (lists_of_resolve? hresolve).found
  exact ⟨enum, henum⟩

/-- **Every listed field is bound.** -/
theorem exists_fieldBinding? (h : field ∈ (EnumSchema.ofDescriptor file).fields) :
    ∃ enum, (EnumSchema.ofDescriptor file).enums[field.enumIndex]? = some enum ∧
      fieldBinding? (EnumSchema.ofDescriptor file).enums field = some
        ⟨bindingName field, field.messagePath, field.name, field.node,
          adapterPath enum field.storage⟩ := by
  obtain ⟨enum, henum⟩ := exists_enum_of_mem_fields h
  refine ⟨enum, henum, ?_⟩
  rw [fieldBinding?, henum]
  rfl

/-- What is found for all members is found for each in its place. -/
theorem forall₂_filterMap_of_forall {α β : Type} {result : α → Option β} {Stands : α → β → Prop}
    {members : List α} (h : ∀ a ∈ members, ∃ b, result a = some b ∧ Stands a b) :
    List.Forall₂ Stands members (members.filterMap result) := by
  induction members with
  | nil => exact .nil
  | cons a members ih =>
    obtain ⟨⟨b, hb, hstands⟩, hmembers⟩ := List.forall_mem_cons.mp h
    rw [List.filterMap_cons_some hb]
    exact .cons hstands (ih hmembers)

/-- **The modules in the XML code for a file**: the adapters of its enums, and the bindings of its
fields. -/
theorem modules_xmlCode (file : FileDescriptor) :
    modules ((EnumSchema.ofDescriptor file).codeLines .xml) =
      ((EnumSchema.ofDescriptor file).enums.map fun enum => (adapterModule .xml enum).defined) ++
        ((EnumSchema.ofDescriptor file).fields.filterMap
          (fieldBinding? (EnumSchema.ofDescriptor file).enums)).map (·.defined) := by
  have hbinding : Item.defined? ∘ Item.binding = some ∘ FieldBinding.defined := rfl
  rw [← List.append_nil (EnumSchema.codeLines _ _), EnumSchema.modules_codeLines, EnumSchema.items,
    List.filterMap_append, filterMap_formatItems fun _ => rfl, List.filterMap_map, hbinding,
    List.filterMap_eq_map]
  exact List.append_nil _

/-- The node of a listed field has a line feed in its name only if the field has. -/
theorem lineFeed_notMem_node (h : field ∈ (EnumSchema.ofDescriptor file).fields)
    (hname : '\n' ∉ field.name) : '\n' ∉ field.node.name := by
  rcases node_of_mem_fields h with hnode | hnode
  · rw [hnode]
    exact hname
  · rw [hnode]
    exact fun hmem => absurd (Text.mem_upperCamel hmem) (by decide)

/-- **The fields of a schema refer to what is generated.** The schema lists the enum fields whose enum
the file declares, each once and in the order of the walk, with the place of the first enum of that
full name, so each of them has a binding. The XML code defines the adapters of every enum and then
these bindings, one for every listed field, and each re-exports the adapter of its enum for the
storage of its field. The lines of the code define them in every case, and its text where neither the
name of the file nor that of a listed field or of a message around it holds a line feed. -/
theorem ofDescriptor_fields (file : FileDescriptor) :
    (∃ places : List Place, places.Pairwise Place.Precedes ∧
      (∀ place, place ∈ places ↔ file.IsRecorded (.field place)) ∧
      List.Forall₂
        (fun place listed => ∃ names field, file.fieldAt? place = some (names, field) ∧
          listed.Lists file names field)
        places (EnumSchema.ofDescriptor file).fields) ∧
    (∀ field ∈ (EnumSchema.ofDescriptor file).fields,
      (fieldBinding? (EnumSchema.ofDescriptor file).enums field).isSome = true) ∧
    ((EnumSchema.ofDescriptor file).render? .xml =
      if (EnumSchema.ofDescriptor file).enums = [] then none
      else some (text ((EnumSchema.ofDescriptor file).codeLines .xml))) ∧
    ∃ adapters bindings : List DefinedModule,
      modules ((EnumSchema.ofDescriptor file).codeLines .xml) = adapters ++ bindings ∧
      ('\n' ∉ file.name →
        (∀ field ∈ (EnumSchema.ofDescriptor file).fields,
          ∀ name ∈ field.messagePath ++ [field.name], '\n' ∉ name) →
        ∀ code, (EnumSchema.ofDescriptor file).render? .xml = some code →
          readModules code = adapters ++ bindings) ∧
      adapters = (EnumSchema.ofDescriptor file).enums.map
        (fun enum => (adapterModule .xml enum).defined) ∧
      List.Forall₂
        (fun field binding => binding.name = bindingName field ∧
          ∃ adapter path, adapters[field.enumIndex]? = some adapter ∧
            adapter.Serves field.storage path ∧ binding.exports = [path])
        (EnumSchema.ofDescriptor file).fields bindings := by
  refine ⟨?_, ?_, ?_, _, _, file.modules_xmlCode, ?_, rfl, ?_⟩
  · obtain ⟨places, horder, hmem, hstands⟩ := file.exists_places_resolved
    refine ⟨places, horder, hmem, ?_⟩
    apply forall₂_filterMap hstands
    -- a listed field comes from the node in its place
    rintro place node listed ⟨hat, -⟩ hresolve
    exact ⟨node.messagePath, node.field, hat, lists_of_resolve? hresolve⟩
  · intro field hfield
    obtain ⟨enum, -, hbinding⟩ := exists_fieldBinding? hfield
    rw [hbinding]
    rfl
  · rw [EnumSchema.render?, EnumSchema.hasEnums]
    cases (EnumSchema.ofDescriptor file).enums <;> rfl
  · intro hname hfields code hcode
    obtain ⟨-, hcode⟩ := Option.ite_none_right_eq_some.mp hcode
    rw [← Option.some.inj hcode, EnumSchema.readModules_xmlCode hname, modules_xmlCode]
    intro field hfield
    have hnames := hfields field hfield
    exact ⟨lineFeed_notMem_node hfield (hnames field.name (by simp)), hnames⟩
  · rw [List.forall₂_map_right_iff]
    apply forall₂_filterMap_of_forall
    intro field hfield
    obtain ⟨enum, henum, hbinding⟩ := exists_fieldBinding? hfield
    refine ⟨_, hbinding, rfl, (adapterModule .xml enum).defined, adapterPath enum field.storage,
      ?_, serves_adapterPath enum field.storage, FieldBinding.exports_defined _⟩
    -- the adapters stand in the order of the enums, so both have the same places
    rw [List.getElem?_map, henum]
    rfl

/-- A field for the enum of `lampFile`. -/
def stateField (name : Text) (label : Int32) (proto3Optional : Bool) : FieldDescriptor where
  name? := name
  label? := label
  type? := some 14
  typeName? := ".State".toList
  proto3Optional? := proto3Optional

/-- A file with one enum, and a message with three fields for it: a plain one, an optional one and a
list. -/
def lampFile : FileDescriptor where
  name? := "lamp.proto".toList
  dialect? := "proto3".toList
  enums := [{ name? := "State".toList, values := [{ name? := "STATE_OFF".toList }] }]
  messages :=
    [{ name? := "Lamp".toList
       fields := [stateField "state" 1 false, stateField "goal" 1 true, stateField "past" 3 false] }]

/-- From the text of the code for `lampFile` one reads an adapter and three bindings, which re-export
the adapter and its two parts. -/
theorem ofDescriptor_fields_lampFile :
    ∃ code adapter state goal past, (EnumSchema.ofDescriptor lampFile).render? .xml = some code ∧
      readModules code = [adapter, state, goal, past] ∧ adapter.IsAdapter ∧
      state.exports = [adapter.name] ∧ goal.exports = [adapter.name ++ "::option"] ∧
      past.exports = [adapter.name ++ "::vec"] := by
  obtain ⟨-, -, hrender, adapters, bindings, -, hmodules, hadapters, hbindings⟩ :=
    ofDescriptor_fields lampFile
  have hcode := hrender.trans (if_neg (by decide))
  have hread := hmodules (by decide) (by decide) _ hcode
  obtain ⟨adapter, rfl⟩ : ∃ adapter, adapters = [adapter] := ⟨_, hadapters⟩
  -- the fields are of the three storages, so the paths are those of the three adapters
  obtain ⟨node, node', node'', hfields⟩ : ∃ node node' node'',
      (EnumSchema.ofDescriptor lampFile).fields =
        [ ⟨["Lamp".toList], "state", 0, .singular, node⟩,
          ⟨["Lamp".toList], "goal", 0, .optional, node'⟩,
          ⟨["Lamp".toList], "past", 0, .repeated, node''⟩ ] := ⟨_, _, _, rfl⟩
  rw [hfields] at hbindings
  obtain ⟨state, _, ⟨-, _, _, hadapter, hstate, hstatePath⟩, hothers, rfl⟩ :=
    List.forall₂_cons_left_iff.mp hbindings
  obtain ⟨goal, _, ⟨-, _, _, hadapter', hgoal, hgoalPath⟩, hlast, rfl⟩ :=
    List.forall₂_cons_left_iff.mp hothers
  obtain ⟨past, _, ⟨-, _, _, hadapter'', hpast, hpastPath⟩, hend, rfl⟩ :=
    List.forall₂_cons_left_iff.mp hlast
  obtain rfl := List.forall₂_nil_left_iff.mp hend
  obtain rfl := Option.some.inj hadapter
  obtain rfl := Option.some.inj hadapter'
  obtain rfl := Option.some.inj hadapter''
  refine ⟨_, adapter, state, goal, past, hcode, hread, ?_⟩
  cases hstate with | singular hself =>
  cases hgoal with | optional =>
  cases hpast with | repeated =>
  exact ⟨hself, hstatePath, hgoalPath, hpastPath⟩

end FileDescriptor

end EnumCodegen
