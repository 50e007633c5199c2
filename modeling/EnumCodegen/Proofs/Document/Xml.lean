import EnumCodegen.Proofs.Document.Nodes

/-!
# Documents come back from XML

A document is written with an attribute or some elements for every field that holds a string. Reading
meets them in that order, and finds the field of each by its key. A field without strings is absent,
and that stands for its value.

## Main definitions

* `Entry.ofAttributes`, `Entry.ofElements`: the entries that attributes and elements carry
* `DocumentType.IsRegular`: types of documents that both formats carry

## Main results

* `DocumentType.writeXml_entries`, `DocumentType.readXml_documentText`: what a document is written as,
  and reading that
* `DocumentType.exists_writeXml_iff`: which documents are written
* `DocumentType.readXml_writeXml`: a document comes back from XML
-/

namespace EnumCodegen

open Xml
open Text (isBlank)

/-! ## Entries -/

/-- What some items yield nothing for is what the others yield. -/
theorem flatMap_eq_flatMap_filter {Item Result : Type} {p : Item → Bool} {f : Item → List Result}
    {items : List Item} (h : ∀ item ∈ items, p item = false → f item = []) :
    items.flatMap f = (items.filter p).flatMap f := by
  induction items with
  | nil => rfl
  | cons item items ih =>
    rw [List.forall_mem_cons] at h
    cases hitem : p item with
    | false => rw [List.flatMap_cons, h.1 hitem, List.filter_cons_of_neg (by simp [hitem]), ih h.2,
        List.nil_append]
    | true => rw [List.flatMap_cons, List.filter_cons_of_pos hitem, List.flatMap_cons, ih h.2]

namespace Entry

/-- Whether an entry has a string. -/
def carries (entry : Entry) : Bool :=
  !entry.texts.isEmpty

/-- Whether the node of an entry is an attribute. -/
def isAttribute (entry : Entry) : Bool :=
  match entry.field.node with
  | .attribute _ => true
  | .element _ => false

/-- **The entries that attributes carry.** -/
def ofAttributes (entries : List Entry) : List Entry :=
  (entries.filter carries).filter isAttribute

/-- **The entries that elements carry.** -/
def ofElements (entries : List Entry) : List Entry :=
  (entries.filter carries).filter (!isAttribute ·)

variable {entries : List Entry}

/-- Entries without strings are carried by nothing, and all others by the one or the other. -/
theorem ofAttributes_append_ofElements_perm (entries : List Entry) :
    (ofAttributes entries ++ ofElements entries).Perm (entries.filter carries) :=
  List.filter_append_perm isAttribute _

/-- What is carried has a key of its own. -/
theorem nodup_key_carried (hnodup : (entries.map (·.key)).Nodup) :
    ((ofAttributes entries ++ ofElements entries).map (·.key)).Nodup :=
  ((ofAttributes_append_ofElements_perm entries).map (·.key)).nodup_iff.mpr
    ((List.filter_sublist.map _).nodup hnodup)

theorem mem_of_mem_carried {entry : Entry}
    (hentry : entry ∈ ofAttributes entries ++ ofElements entries) : entry ∈ entries :=
  (List.mem_filter.mp ((ofAttributes_append_ofElements_perm entries).subset hentry)).1

/-- Names and strings in a document have no mark and no blank in the wrong place. -/
theorem legible_labelled (hlegible : ∀ entry ∈ entries, entry.IsLegible) :
    ∀ pair ∈ entries.flatMap (·.labelled),
      IsName pair.1 ∧ Text.trimmed isBlank pair.2 = pair.2 := by
  intro pair hpair
  obtain ⟨entry, hentry, hpair⟩ := List.mem_flatMap.mp hpair
  obtain ⟨text, htext, rfl⟩ := List.mem_map.mp hpair
  exact ⟨(hlegible entry hentry).isName, (hlegible entry hentry).trimmed text htext⟩

theorem isAttribute_of_mem (hlegible : ∀ entry ∈ entries, entry.IsLegible) {entry : Entry}
    (hentry : entry ∈ ofAttributes entries) : entry.IsAttribute := by
  obtain ⟨hcarrying, hnode⟩ := List.mem_filter.mp hentry
  obtain ⟨hentry, hcarries⟩ := List.mem_filter.mp hcarrying
  refine ⟨hlegible entry hentry, ?_, ?_⟩
  · unfold isAttribute at hnode
    unfold name
    split at hnode
    · next name h => rw [h]; rfl
    · cases hnode
  · simpa [carries] using hcarries

theorem isElement_of_mem (hlegible : ∀ entry ∈ entries, entry.IsLegible) {entry : Entry}
    (hentry : entry ∈ ofElements entries) : entry.IsElement := by
  obtain ⟨hcarrying, hnode⟩ := List.mem_filter.mp hentry
  obtain ⟨hentry, hcarries⟩ := List.mem_filter.mp hcarrying
  refine ⟨hlegible entry hentry, ?_, ?_⟩
  · unfold isAttribute at hnode
    unfold name
    split at hnode
    · cases hnode
    · next name h => rw [h]; rfl
  · simpa [carries] using hcarries

theorem carries_eq_false_iff {entry : Entry} :
    entry.carries = false ↔ heldStrings entry.held = [] := by
  simp [carries, texts]

/-- **The attributes of entries** are those of the entries that attributes carry. -/
theorem flatMap_attributeText (hlegible : ∀ entry ∈ entries, entry.IsLegible) :
    entries.flatMap (fun entry => attributeText entry.field entry.held) =
      attributesText ((ofAttributes entries).flatMap (·.labelled)) := by
  have hnone : ∀ entry ∈ entries, (isAttribute entry && carries entry) = false →
      attributeText entry.field entry.held = [] := by
    intro entry _ h
    unfold attributeText
    cases hnode : entry.field.node with
    | «attribute» name =>
      have htexts : heldStrings entry.held = [] := by
        simpa [isAttribute, hnode, carries_eq_false_iff] using h
      simp [htexts]
    | element name => rfl
  rw [flatMap_eq_flatMap_filter hnone, ← List.filter_filter, attributesText, List.flatMap_assoc]
  refine List.flatMap_congr fun entry hentry => ?_
  rw [attributeText, (isAttribute_of_mem hlegible hentry).node_eq, labelled, List.flatMap_map]
  rfl

/-- **The elements of entries** are those of the entries that elements carry. -/
theorem flatMap_elementsText (hlegible : ∀ entry ∈ entries, entry.IsLegible) :
    entries.flatMap (fun entry => elementsText entry.field entry.held) =
      contentText ((ofElements entries).flatMap (·.labelled)) := by
  have hnone : ∀ entry ∈ entries, (!isAttribute entry && carries entry) = false →
      elementsText entry.field entry.held = [] := by
    intro entry _ h
    unfold elementsText
    cases hnode : entry.field.node with
    | «attribute» name => rfl
    | element name =>
      have htexts : heldStrings entry.held = [] := by
        simpa [isAttribute, hnode, carries_eq_false_iff] using h
      simp [htexts]
  rw [flatMap_eq_flatMap_filter hnone, ← List.filter_filter, contentText, List.flatMap_assoc]
  refine List.flatMap_congr fun entry hentry => ?_
  rw [elementsText, (isElement_of_mem hlegible hentry).node_eq, labelled, List.flatMap_map]
  rfl

/-- A field without strings is absent, and its value says so. -/
theorem IsWritten.absent_eq {entry : Entry} (h : entry.IsWritten)
    (hcarries : entry.carries = false) :
    entry.field.mayBeAbsent = true ∧ entry.field.absent = entry.value := by
  rw [carries_eq_false_iff] at hcarries
  rcases h.holds.shape with ⟨text, hheld, -⟩ | ⟨-, hvalue, enum, hkind⟩ |
    ⟨texts, ns, hheld, hvalue, hlength, enum, hkind⟩
  · rw [hheld] at hcarries
    cases hcarries
  · simp [DocumentField.mayBeAbsent, DocumentField.absent, hkind, hvalue]
  · rw [hheld, Adapter.heldStrings_list] at hcarries
    rw [hcarries, List.length_nil] at hlength
    simp [DocumentField.mayBeAbsent, DocumentField.absent, hkind, hvalue,
      List.length_eq_zero_iff.mp hlength.symm]

end Entry

/-! ## Documents -/

namespace DocumentType

variable {type : DocumentType} {document : Document} {entries : List Entry}

/-- **A document is written** as its name with the attributes and elements of its entries. -/
theorem writeXml_entries (hlegible : ∀ entry ∈ entries, entry.IsLegible)
    (h : ((type.fields.zip document).mapM fun (field, value) =>
      (Adapter.write field value).map (field, ·)) =
        .ok (entries.map fun entry => (entry.field, entry.held))) :
    type.writeXml document = .ok (documentText type.name
      ((Entry.ofAttributes entries).flatMap (·.labelled))
      ((Entry.ofElements entries).flatMap (·.labelled))) := by
  have hattributes := Entry.flatMap_attributeText hlegible
  have helements := Entry.flatMap_elementsText hlegible
  rw [writeXml, h, documentText, ← hattributes, ← helements]
  simp only [bind, Except.bind, pure, Except.pure, List.flatMap_map]

/-- **What stands for a document** comes back: every value from its strings, or from their absence. -/
theorem completed_carried (hlegible : ∀ entry ∈ entries, entry.IsLegible)
    (hnodup : (entries.map (·.key)).Nodup) :
    completed (entries.map (·.field)) (·.node.key)
        ((Entry.ofAttributes entries ++ Entry.ofElements entries).map fun entry =>
          (entry.key, entry.value)) =
      .ok (entries.map (·.value)) := by
  have hperm := Entry.ofAttributes_append_ofElements_perm entries
  have hkeys : (((Entry.ofAttributes entries ++ Entry.ofElements entries).map fun entry =>
      (entry.key, entry.value)).map (·.1)).Nodup := by
    rw [List.map_map]
    exact Entry.nodup_key_carried hnodup
  refine completed_entries fun entry hentry => ?_
  cases hcarries : entry.carries with
  | true =>
    left
    apply (lookup_eq_some_iff_mem hkeys).mpr
    exact List.mem_map_of_mem (hperm.symm.subset (List.mem_filter.mpr ⟨hentry, hcarries⟩))
  | false =>
    right
    refine ⟨?_, (hlegible entry hentry).absent_eq hcarries⟩
    rw [lookup_eq_none_iff_notMem, List.map_map]
    intro hmem
    -- an entry that is carried by this key would be this one, which carries nothing
    obtain ⟨other, hother, heq⟩ := List.mem_map.mp hmem
    obtain ⟨hother, hcarries'⟩ := List.mem_filter.mp (hperm.subset hother)
    rw [List.inj_on_of_nodup_map hnodup hother hentry heq, hcarries] at hcarries'
    cases hcarries'

/-- **A document comes back** from its name, its attributes and its elements. -/
theorem readXml_documentText (hname : IsName type.name)
    (hlegible : ∀ entry ∈ entries, entry.IsLegible) (hfields : entries.map (·.field) = type.fields)
    (hnodup : (type.fields.map (·.node.key)).Nodup) :
    type.readXml (documentText type.name ((Entry.ofAttributes entries).flatMap (·.labelled))
      ((Entry.ofElements entries).flatMap (·.labelled))) = .ok (entries.map (·.value)) := by
  have hkeys : (entries.map (·.key)).Nodup := by
    rw [← hfields, List.map_map] at hnodup
    exact hnodup
  have hattributes : ∀ entry ∈ Entry.ofAttributes entries, entry.IsAttribute :=
    fun entry hentry => Entry.isAttribute_of_mem hlegible hentry
  have helements : ∀ entry ∈ Entry.ofElements entries, entry.IsElement :=
    fun entry hentry => Entry.isElement_of_mem hlegible hentry
  have hfind : ∀ entry ∈ Entry.ofAttributes entries ++ Entry.ofElements entries,
      type.fields.find? (·.node.key = entry.key) = some entry.field := fun entry hentry =>
    find?_key_eq_some hnodup (hfields ▸ List.mem_map_of_mem (Entry.mem_of_mem_carried hentry))
  have hcarried := Entry.nodup_key_carried hkeys
  rw [List.map_append, List.nodup_append] at hcarried
  have hdistinct := Entry.nodup_labelled hattributes hcarried.1
  have hnames : ∀ pair ∈ (Entry.ofAttributes entries).flatMap (·.labelled), IsName pair.1 :=
    fun pair hpair => (Entry.legible_labelled
      (fun entry hentry => (hattributes entry hentry).toIsLegible) pair hpair).1
  have hnext := Cursor.next?_start_documentText hname hnames hdistinct
    (Entry.legible_labelled fun entry hentry => (helements entry hentry).toIsLegible)
  -- attributes come first, and nothing is read by their keys again
  have hread := readAttributes_entries hattributes
    (fun entry hentry => hfind entry (List.mem_append_left _ hentry)) hcarried.1
    fun entry _ => (List.lookup_nil : ([] : ReadValues).lookup entry.key = none)
  have hnew : ∀ entry ∈ Entry.ofElements entries, ((Entry.ofAttributes entries).map fun entry =>
      (entry.key, entry.value)).lookup entry.key = none := by
    intro entry hentry
    rw [lookup_eq_none_iff_notMem, List.map_map]
    exact fun hmem => hcarried.2.2 _ hmem _ (List.mem_map_of_mem hentry) rfl
  have hrest := readElements_entries helements
    (fun entry hentry => hfind entry (List.mem_append_right _ hentry)) hcarried.2.1 hnew
    (attributesText ((Entry.ofAttributes entries).flatMap (·.labelled))) (Nat.le_succ _)
  have hcompleted := completed_carried hlegible hkeys
  rw [List.map_append, hfields] at hcompleted
  rw [List.nil_append] at hread
  rw [readXml, hnext]
  simp only [expectPlace, bind, Except.bind, attributes_attributesText hnames hdistinct, hread]
  rw [partsToEnd] at hrest
  simp only [Cursor.within] at hrest ⊢
  rw [hrest]
  exact hcompleted

/-- **Which documents are written as XML**: those whose numbers belong to the enums of their
fields. -/
theorem exists_writeXml_iff (hclear : ∀ field ∈ type.fields, field.HasClearEnum)
    (hfor : List.Forall₂ (fun field value => value.IsFor field) type.fields document) :
    (∃ text, type.writeXml document = .ok text) ↔
      List.Forall₂ DocumentField.Admits type.fields document := by
  rw [← exists_mapM_write_iff hclear hfor id]
  exact exists_map_eq_ok_iff _

/-- **A type of documents that both formats carry**: names and keys tell the fields apart, nothing in
a name has a meaning in markup, the values of enums are told apart, and no attribute holds a list. -/
structure IsRegular (type : DocumentType) : Prop where
  hasClearEnum : ∀ field ∈ type.fields, field.HasClearEnum
  names_nodup : (type.fields.map (·.name)).Nodup
  keys_nodup : (type.fields.map (·.node.key)).Nodup
  isName : IsName type.name
  isName_node : ∀ field ∈ type.fields, IsName field.node.name
  single : ∀ field ∈ type.fields, field.holdsList = true → field.node = .element field.node.name

instance (type : DocumentType) : Decidable type.IsRegular :=
  decidable_of_iff
    ((type.fields.map (·.name)).Nodup ∧ (type.fields.map (·.node.key)).Nodup ∧ IsName type.name ∧
      type.fields.all fun field => field.HasClearEnum ∧ IsName field.node.name ∧
        (field.holdsList = true → field.node = .element field.node.name))
    (by
      simp only [List.all_eq_true, decide_eq_true_eq]
      exact ⟨fun ⟨hnames, hkeys, hname, hfields⟩ =>
          ⟨fun field h => (hfields field h).1, hnames, hkeys, hname,
            fun field h => (hfields field h).2.1, fun field h => (hfields field h).2.2⟩,
        fun ⟨hclear, hnames, hkeys, hname, hnodes, hsingle⟩ =>
          ⟨hnames, hkeys, hname, fun field h => ⟨hclear field h, hnodes field h, hsingle field h⟩⟩⟩)

/-- **A document comes back from XML**, if trimming leaves its texts alone. -/
theorem readXml_writeXml (htype : type.IsRegular)
    (hfor : List.Forall₂ (fun field value => value.IsFor field) type.fields document)
    (htext : ∀ text, .text text ∈ document → Text.trimmed isBlank text = text) {text : Text}
    (h : type.writeXml document = .ok text) : type.readXml text = .ok document := by
  obtain ⟨values, hvalues⟩ := (exists_mapM_write_iff htype.hasClearEnum hfor id).mpr
    ((exists_writeXml_iff htype.hasClearEnum hfor).mp ⟨text, h⟩)
  obtain ⟨entries, hwritten, hfields, hdocument, rfl⟩ :=
    exists_entries htype.hasClearEnum hfor hvalues
  have hlegible : ∀ entry ∈ entries, entry.IsLegible := by
    intro entry hentry
    have hfield : entry.field ∈ type.fields := hfields ▸ List.mem_map_of_mem hentry
    have hvalue : entry.value ∈ document := hdocument ▸ List.mem_map_of_mem hentry
    exact
      { hwritten entry hentry with
        isName := htype.isName_node entry.field hfield
        trimmed := (hwritten entry hentry).holds.trimmed (htype.hasClearEnum entry.field hfield)
          fun text heq => htext text (heq ▸ hvalue)
        single := htype.single entry.field hfield }
  rw [writeXml_entries hlegible hvalues] at h
  obtain rfl := Except.ok.inj h
  rw [readXml_documentText htype.isName hlegible hfields htype.keys_nodup, hdocument]

end DocumentType

end EnumCodegen
