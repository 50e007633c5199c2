import EnumCodegen.Proofs.Document.Entry
import EnumCodegen.Proofs.Json.Written
import Mathlib.Data.List.Perm.Basic

/-!
# Documents come back from JSON

The members of the object that a document is written as have the names of the fields. Reading sorts
them, which does not matter where no name stands twice: each member is read as the value of its field,
and every field finds its value by its name.

## Main results

* `Json.sortedMembers_perm`: sorting keeps the members
* `DocumentType.readJson_writeJson`: a document comes back from JSON
* `DocumentType.exists_writeJson_iff`: which documents are written
-/

namespace EnumCodegen

/-! ## Members by name -/

namespace Json

variable {name : Text} {value : Json} {members sorted : List (Text × Json)}

theorem insertMember_perm (h : name ∉ sorted.map (·.1)) :
    (insertMember name value sorted).Perm ((name, value) :: sorted) := by
  induction sorted with
  | nil => exact List.Perm.refl _
  | cons member rest ih =>
    obtain ⟨other, old⟩ := member
    rw [List.map_cons, List.mem_cons, not_or] at h
    rw [insertMember, if_neg h.1]
    split
    · exact List.Perm.refl _
    · exact ((ih h.2).cons _).trans (List.Perm.swap _ _ _)

theorem foldl_insertMember_perm (h : ((sorted ++ members).map (·.1)).Nodup) :
    (members.foldl (fun sorted (name, value) => insertMember name value sorted) sorted).Perm
      (sorted ++ members) := by
  induction members generalizing sorted with
  | nil => rw [List.append_nil, List.foldl_nil]
  | cons member members ih =>
    obtain ⟨name, value⟩ := member
    have hmiddle : ((name, value) :: (sorted ++ members)).Perm (sorted ++ (name, value) :: members) :=
      List.perm_middle.symm
    have hnodup := (hmiddle.map (·.1)).nodup_iff.mpr h
    rw [List.map_cons, List.nodup_cons, List.map_append, List.mem_append, not_or] at hnodup
    have hinsert : (insertMember name value sorted).Perm ((name, value) :: sorted) :=
      insertMember_perm hnodup.1.1
    have happend := hinsert.append_right members
    exact (ih ((happend.map (·.1)).nodup_iff.mpr ((hmiddle.map (·.1)).nodup_iff.mpr h))).trans
      (happend.trans hmiddle)

/-- **Sorting keeps the members** of an object without repeated names. -/
theorem sortedMembers_perm (h : (members.map (·.1)).Nodup) :
    (sortedMembers members).Perm members := by
  have hall : ((([] : List (Text × Json)) ++ members).map (·.1)).Nodup := h
  exact foldl_insertMember_perm hall

end Json

/-! ## Documents -/

/-- What the value of a field is written as holds no number. -/
theorem Entry.IsWritten.numberFree {entry : Entry} (h : entry.IsWritten) :
    entry.held.NumberFree := by
  rcases h.holds.shape with ⟨text, hheld, -⟩ | ⟨hheld, -, -⟩ | ⟨texts, ns, hheld, -, -, -⟩ <;>
    rw [hheld]
  · exact .string text
  · exact .null
  · refine .list fun item hitem => ?_
    obtain ⟨text, -, rfl⟩ := List.mem_map.mp hitem
    exact .string text

/-- **Members are read as the values of their fields**, whatever their order. -/
theorem readMembers_entries {fields : List DocumentField} {members : List (Text × Json)}
    {entries : List Entry}
    (hmembers : List.Forall₂ (fun member entry => member = (entry.field.name, entry.held)) members
      entries)
    (hwritten : ∀ entry ∈ entries, entry.IsWritten)
    (hfind : ∀ entry ∈ entries, fields.find? (·.name = entry.field.name) = some entry.field) :
    readMembers fields members = .ok (entries.map fun entry => (entry.field.name, entry.value)) := by
  induction hmembers with
  | nil => rfl
  | @cons member entry members entries hmember hrest ih =>
    subst hmember
    rw [List.forall_mem_cons] at hwritten hfind
    rw [readMembers, hfind.1]
    simp only
    rw [hwritten.1.read_held .json, ih hwritten.2 hfind.2]
    rfl

namespace DocumentType

variable {type : DocumentType} {document : Document}

/-- **A document comes back** from the object whose members hold the values of its fields. -/
theorem ofJson_entries (hnames : (type.fields.map (·.name)).Nodup) {entries : List Entry}
    (hwritten : ∀ entry ∈ entries, entry.IsWritten) (hfields : entries.map (·.field) = type.fields) :
    type.ofJson (.object (entries.map fun entry => (entry.field.name, entry.held))) =
      .ok (entries.map (·.value)) := by
  have hkeys : (entries.map (·.field.name)).Nodup := by
    rw [← hfields, List.map_map] at hnames
    exact hnames
  have hmembers : List.Forall₂ (fun member entry => member = (entry.field.name, entry.held))
      (entries.map fun entry => (entry.field.name, entry.held)) entries :=
    List.forall₂_map_left_iff.mpr (List.forall₂_same.mpr fun _ _ => rfl)
  have hmemberNames : ((entries.map fun entry => (entry.field.name, entry.held)).map
      (·.1)).Nodup := by
    rw [List.map_map]
    exact hkeys
  have hsorted := Json.sortedMembers_perm hmemberNames
  -- the sorted members belong to the same entries in another order
  obtain ⟨ordered, hordered, hperm⟩ := List.perm_comp_forall₂ hsorted hmembers
  have hfind : ∀ entry ∈ ordered, type.fields.find? (·.name = entry.field.name) = some entry.field :=
    fun entry hentry =>
      find?_key_eq_some hnames (hfields ▸ List.mem_map_of_mem (hperm.subset hentry))
  have hread := readMembers_entries hordered
    (fun entry hentry => hwritten entry (hperm.subset hentry)) hfind
  have hcompleted : completed (entries.map (·.field)) (·.name)
      (ordered.map fun entry => (entry.field.name, entry.value)) = .ok (entries.map (·.value)) := by
    refine completed_entries fun entry hentry => .inl ?_
    rw [lookup_eq_some_iff_mem]
    · exact List.mem_map_of_mem (hperm.symm.subset hentry)
    · rw [List.map_map]
      exact (hperm.map (·.field.name)).nodup_iff.mpr hkeys
  rw [hfields] at hcompleted
  rw [ofJson, hread]
  exact hcompleted

/-- **Which documents are written as JSON**: those whose numbers belong to the enums of their
fields. -/
theorem exists_writeJson_iff (hclear : ∀ field ∈ type.fields, field.HasClearEnum)
    (hfor : List.Forall₂ (fun field value => value.IsFor field) type.fields document) :
    (∃ text, type.writeJson document = .ok text) ↔
      List.Forall₂ DocumentField.Admits type.fields document := by
  rw [← exists_mapM_write_iff hclear hfor (·.name), writeJson, exists_map_eq_ok_iff]
  exact exists_map_eq_ok_iff Json.object

/-- **A document comes back from JSON.** -/
theorem readJson_writeJson (hnames : (type.fields.map (·.name)).Nodup)
    (hclear : ∀ field ∈ type.fields, field.HasClearEnum)
    (hfor : List.Forall₂ (fun field value => value.IsFor field) type.fields document) {text : Text}
    (h : type.writeJson document = .ok text) : type.readJson text = .ok document := by
  obtain ⟨members, hmembers⟩ := (exists_mapM_write_iff hclear hfor (·.name)).mpr
    ((exists_writeJson_iff hclear hfor).mp ⟨text, h⟩)
  obtain ⟨entries, hwritten, hfields, hdocument, rfl⟩ := exists_entries hclear hfor hmembers
  have htext : (Json.object (entries.map fun entry => (entry.field.name, entry.held))).written =
      text := by
    rw [writeJson, toJson, hmembers] at h
    exact Except.ok.inj h
  have hfree : (Json.object (entries.map fun entry =>
      (entry.field.name, entry.held))).NumberFree := by
    refine .object fun member hmember => ?_
    obtain ⟨entry, hentry, rfl⟩ := List.mem_map.mp hmember
    exact (hwritten entry hentry).numberFree
  rw [readJson, ← htext, Json.parse?_written hfree]
  simp only
  rw [ofJson_entries hnames hwritten hfields, hdocument]

end DocumentType

end EnumCodegen
