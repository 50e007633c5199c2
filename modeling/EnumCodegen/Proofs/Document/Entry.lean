import EnumCodegen.Document.Xml
import EnumCodegen.Proofs.Document.Adapter

/-!
# What the fields of a document are written as

A field, its value and the JSON value it is written as go together. That JSON value is a string, null
or a list of strings, and the value of the field comes back from it in either format. A document is
written if every number in it belongs to the enum of its field, and a document whose values have been
read by the keys of their fields is complete.

## Main definitions

* `FieldValue.heldNumbers`, `DocumentField.Admits`: the numbers of a value, and whether they belong to the
  enum of a field
* `DocumentField.HasClearEnum`, `DocumentField.holdsList`: whether the values of a field's enum are
  told apart, and whether the field holds a list
* `Adapter.Holds`: what the value of a field is written as
* `Entry`, `Entry.IsWritten`: a field with its value and what it is written as

## Main results

* `Adapter.exists_write_eq_ok_iff`, `Adapter.read_write`: writing the value of a field and reading it
* `Adapter.holds_of_write`, `Adapter.Holds.shape`: what a value is written as
* `exists_entries`: the entries of a document
* `completed_entries`: a document from the values read
-/

namespace EnumCodegen

/-! ## Values and fields -/

/-- **The numbers of a value.** -/
def FieldValue.heldNumbers : FieldValue → List Int32
  | number n => [n]
  | optional n? => n?.toList
  | numbers ns => ns
  | text _ => []

/-- **Whether a value's numbers belong to the enum of a field.** A text has none. -/
def DocumentField.Admits (field : DocumentField) (value : FieldValue) : Prop :=
  ∀ enum storage, field.kind = .enum enum storage → ∀ n ∈ value.heldNumbers, n ∈ enum.numbers

/-- **Whether the values of a field's enum are told apart**, if it holds one. -/
def DocumentField.HasClearEnum (field : DocumentField) : Prop :=
  ∀ enum storage, field.kind = .enum enum storage → enum.TellsApart

instance (field : DocumentField) : Decidable field.HasClearEnum :=
  match hkind : field.kind with
  | .enum enum storage =>
    decidable_of_iff enum.TellsApart
      ⟨fun h _ _ heq => (FieldKind.enum.inj (hkind.symm.trans heq)).1 ▸ h,
        fun h => h enum storage hkind⟩
  | .text => isTrue fun _ _ heq => nomatch hkind.symm.trans heq

/-- Whether a field holds a list. -/
def DocumentField.holdsList (field : DocumentField) : Bool :=
  match field.kind with
  | .enum _ .repeated => true
  | _ => false

namespace Adapter

variable {field : DocumentField} {value : FieldValue} {enum : DeclaredEnum}

theorem writeNumber_eq_ok_iff {n : Int32} {json : Json} :
    writeNumber enum n = .ok json ↔ ∃ name, writeName enum n = .ok name ∧ json = .string name := by
  rw [writeNumber]
  cases writeName enum n <;> simp [Except.map, eq_comm]

theorem writeNumbers_eq_ok_iff {ns : List Int32} {json : Json} :
    writeNumbers enum ns = .ok json ↔
      ∃ names, ns.mapM (writeName enum) = .ok names ∧ json = .list (names.map .string) := by
  rw [writeNumbers_eq]
  cases ns.mapM (writeName enum) <;> simp [Except.map, eq_comm]

/-- **What is written**: every value whose numbers belong to the enum of the field. -/
theorem exists_write_eq_ok_iff (hclear : field.HasClearEnum) (hfor : value.IsFor field) :
    (∃ json, write field value = .ok json) ↔ field.Admits value := by
  unfold DocumentField.Admits
  cases value with
  | number n =>
    obtain ⟨enum, hkind⟩ := hfor
    have hinverse := isInverse_number (hclear enum _ hkind) .json
    simpa [write, hkind, FieldValue.heldNumbers] using hinverse.writes n
  | optional n? =>
    obtain ⟨enum, hkind⟩ := hfor
    have hinverse := isInverse_optional (hclear enum _ hkind) .json
    simpa [write, hkind, FieldValue.heldNumbers] using hinverse.writes n?
  | numbers ns =>
    obtain ⟨enum, hkind⟩ := hfor
    have hinverse := isInverse_numbers (hclear enum _ hkind) .json
    simpa [write, hkind, FieldValue.heldNumbers] using hinverse.writes ns
  | text text =>
    have hkind : field.kind = .text := hfor
    simp [write, hkind]

/-- **The value of a field comes back**, in both formats. -/
theorem read_write (hclear : field.HasClearEnum) (hfor : value.IsFor field) (format : TextFormat)
    {json : Json} (h : write field value = .ok json) : read format field json = .ok value := by
  cases value with
  | number n =>
    obtain ⟨enum, hkind⟩ := hfor
    simp only [write, hkind] at h
    rw [read, hkind]
    simp only [(isInverse_number (hclear enum _ hkind) format).readsBack n json h, Except.map]
  | optional n? =>
    obtain ⟨enum, hkind⟩ := hfor
    simp only [write, hkind] at h
    rw [read, hkind]
    simp only [(isInverse_optional (hclear enum _ hkind) format).readsBack n? json h, Except.map]
  | numbers ns =>
    obtain ⟨enum, hkind⟩ := hfor
    simp only [write, hkind] at h
    rw [read, hkind]
    simp only [(isInverse_numbers (hclear enum _ hkind) format).readsBack ns json h, Except.map]
  | text text =>
    have hkind : field.kind = .text := hfor
    simp only [write, hkind] at h
    obtain rfl := Except.ok.inj h
    rw [read, hkind]
    rfl

/-- **What the value of a field is written as**, by the storage of the field. -/
inductive Holds (field : DocumentField) : FieldValue → Json → Prop where
  | number {enum : DeclaredEnum} {n : Int32} {name : Text}
    (kind : field.kind = .enum enum .singular) (named : writeName enum n = .ok name) :
    Holds field (.number n) (.string name)
  | present {enum : DeclaredEnum} {n : Int32} {name : Text}
    (kind : field.kind = .enum enum .optional) (named : writeName enum n = .ok name) :
    Holds field (.optional (some n)) (.string name)
  | absent {enum : DeclaredEnum} (kind : field.kind = .enum enum .optional) :
    Holds field (.optional none) .null
  | numbers {enum : DeclaredEnum} {ns : List Int32} {names : List Text}
    (kind : field.kind = .enum enum .repeated) (named : ns.mapM (writeName enum) = .ok names) :
    Holds field (.numbers ns) (.list (names.map .string))
  | text {text : Text} (kind : field.kind = .text) : Holds field (.text text) (.string text)

/-- A value that is written is held by what it is written as. -/
theorem holds_of_write (hfor : value.IsFor field) {json : Json} (h : write field value = .ok json) :
    Holds field value json := by
  cases value with
  | number n =>
    obtain ⟨enum, hkind⟩ := hfor
    simp only [write, hkind] at h
    obtain ⟨name, hname, rfl⟩ := writeNumber_eq_ok_iff.mp h
    exact .number hkind hname
  | optional n? =>
    obtain ⟨enum, hkind⟩ := hfor
    simp only [write, hkind] at h
    cases n? with
    | none =>
      obtain rfl := Except.ok.inj h
      exact .absent hkind
    | some n =>
      obtain ⟨name, hname, rfl⟩ := writeNumber_eq_ok_iff.mp h
      exact .present hkind hname
  | numbers ns =>
    obtain ⟨enum, hkind⟩ := hfor
    simp only [write, hkind] at h
    obtain ⟨names, hnames, rfl⟩ := writeNumbers_eq_ok_iff.mp h
    exact .numbers hkind hnames
  | text text =>
    have hkind : field.kind = .text := hfor
    simp only [write, hkind] at h
    obtain rfl := Except.ok.inj h
    exact .text hkind

/-- **The shapes of what is written**: a string, null for an optional value that is none, or a list of
strings. -/
theorem Holds.shape {json : Json} (h : Holds field value json) :
    (∃ text, json = .string text ∧ field.holdsList = false) ∨
    (json = .null ∧ value = .optional none ∧ ∃ enum, field.kind = .enum enum .optional) ∨
    ∃ (texts : List Text) (ns : List Int32), json = .list (texts.map .string) ∧ value = .numbers ns ∧
      texts.length = ns.length ∧ ∃ enum, field.kind = .enum enum .repeated := by
  cases h with
  | number hkind hname => exact .inl ⟨_, rfl, by rw [DocumentField.holdsList, hkind]⟩
  | present hkind hname => exact .inl ⟨_, rfl, by rw [DocumentField.holdsList, hkind]⟩
  | absent hkind => exact .inr (.inl ⟨rfl, rfl, _, hkind⟩)
  | numbers hkind hnames =>
    have hlength := (mapM_eq_ok_iff.mp hnames).length_eq
    exact .inr (.inr ⟨_, _, rfl, rfl, hlength.symm, _, hkind⟩)
  | text hkind => exact .inl ⟨_, rfl, by rw [DocumentField.holdsList, hkind]⟩

/-- The strings of a list are those it is made of. -/
theorem heldStrings_list (texts : List Text) : heldStrings (.list (texts.map .string)) = texts := by
  rw [heldStrings, List.flatMap_map]
  exact List.flatMap_pure_eq_map id texts |>.trans (List.map_id texts)

/-- What is not white space is not blank. -/
theorem isBlank_of_isWhiteSpace {c : Char} (h : CharClass.isWhiteSpace c = false) :
    Text.isBlank c = false := by
  rw [← Bool.not_eq_true] at h ⊢
  intro hblank
  rcases of_decide_eq_true hblank with rfl | rfl | rfl | rfl <;> exact h (by decide)

/-- Trimming leaves alone the name that a number is written as. -/
theorem trimmed_writeName (henum : enum.TellsApart) {n : Int32} {name : Text}
    (h : writeName enum n = .ok name) : Text.trimmed Text.isBlank name = name := by
  have hn : n ∈ enum.numbers := by
    by_contra hn
    rw [(writeName_eq_error_iff n _).mpr ⟨decide_eq_true hn, rfl⟩] at h
    cases h
  obtain ⟨wire, hname, -, htrimmed⟩ := henum.exists_nameOf? hn
  rw [writeName, hname] at h
  obtain rfl := Except.ok.inj h
  rw [Text.trimmed_eq_self_iff] at htrimmed ⊢
  exact htrimmed.imp (fun hfirst c hc => isBlank_of_isWhiteSpace (hfirst c hc))
    fun hlast c hc => isBlank_of_isWhiteSpace (hlast c hc)

/-- **Trimming leaves alone the strings** that a value is written as, if it does so with a text. -/
theorem Holds.trimmed {json : Json} (h : Holds field value json) (hclear : field.HasClearEnum)
    (htext : ∀ text, value = .text text → Text.trimmed Text.isBlank text = text) :
    ∀ text ∈ heldStrings json, Text.trimmed Text.isBlank text = text := by
  cases h with
  | number hkind hname =>
    exact List.forall_mem_singleton.mpr (trimmed_writeName (hclear _ _ hkind) hname)
  | present hkind hname =>
    exact List.forall_mem_singleton.mpr (trimmed_writeName (hclear _ _ hkind) hname)
  | absent hkind => exact fun _ h => absurd h List.not_mem_nil
  | numbers hkind hnames =>
    rw [heldStrings_list]
    exact forall_mem_of_mapM_eq_ok hnames fun _ _ => trimmed_writeName (hclear _ _ hkind)
  | text hkind => exact List.forall_mem_singleton.mpr (htext _ rfl)

end Adapter

/-! ## Documents -/

/-- **A field with its value**, and the JSON value that holds it. -/
structure Entry where
  field : DocumentField
  value : FieldValue
  held : Json

/-- **An entry whose value is written as what it holds.** -/
structure Entry.IsWritten (entry : Entry) : Prop where
  hasClearEnum : entry.field.HasClearEnum
  isFor : entry.value.IsFor entry.field
  written : Adapter.write entry.field entry.value = .ok entry.held

namespace Entry.IsWritten

variable {entry : Entry}

theorem holds (h : entry.IsWritten) : Adapter.Holds entry.field entry.value entry.held :=
  Adapter.holds_of_write h.isFor h.written

/-- **The value of an entry comes back** from what it is written as. -/
theorem read_held (h : entry.IsWritten) (format : TextFormat) :
    Adapter.read format entry.field entry.held = .ok entry.value :=
  Adapter.read_write h.hasClearEnum h.isFor format h.written

end Entry.IsWritten

/-- **The entries of a document** that can be written. Every format labels them in its way. -/
theorem exists_entries {fields : List DocumentField} {document : Document}
    (hclear : ∀ field ∈ fields, field.HasClearEnum)
    (hfor : List.Forall₂ (fun field value => value.IsFor field) fields document) {Label : Type}
    {label : DocumentField → Label} {values : List (Label × Json)}
    (h : ((fields.zip document).mapM fun (field, value) =>
      (Adapter.write field value).map (label field, ·)) = .ok values) :
    ∃ entries : List Entry, (∀ entry ∈ entries, entry.IsWritten) ∧
      entries.map (·.field) = fields ∧ entries.map (·.value) = document ∧
      entries.map (fun entry => (label entry.field, entry.held)) = values := by
  rw [mapM_eq_ok_iff] at h
  induction hfor generalizing values with
  | nil =>
    rw [List.zip_nil_left, List.forall₂_nil_left_iff] at h
    exact ⟨[], by simp, rfl, rfl, h.symm⟩
  | @cons field value fields document hvalue hrest ih =>
    rw [List.zip_cons_cons, List.forall₂_cons_left_iff] at h
    obtain ⟨labelled, values, hwrite, hvalues, rfl⟩ := h
    obtain ⟨entries, hwritten, hfields, hdocument, hlabels⟩ :=
      ih (fun field hfield => hclear field (List.mem_cons_of_mem _ hfield)) hvalues
    cases hheld : Adapter.write field value with
    | error cause =>
      simp [hheld, Except.map] at hwrite
    | ok held =>
      simp only [hheld, Except.map, Except.ok.injEq] at hwrite
      refine ⟨⟨field, value, held⟩ :: entries, ?_, ?_, ?_, ?_⟩
      · rw [List.forall_mem_cons]
        exact ⟨⟨hclear field List.mem_cons_self, hvalue, hheld⟩, hwritten⟩
      · rw [List.map_cons, hfields]
      · rw [List.map_cons, hdocument]
      · rw [List.map_cons, hlabels, hwrite]

/-- **A document is written** if all of its values are. -/
theorem exists_mapM_write_iff {fields : List DocumentField} {document : Document}
    (hclear : ∀ field ∈ fields, field.HasClearEnum)
    (hfor : List.Forall₂ (fun field value => value.IsFor field) fields document) {Label : Type}
    (label : DocumentField → Label) :
    (∃ values, ((fields.zip document).mapM fun (field, value) =>
      (Adapter.write field value).map (label field, ·)) = .ok values) ↔
      List.Forall₂ DocumentField.Admits fields document := by
  rw [exists_mapM_eq_ok_iff]
  induction hfor with
  | nil => simp
  | @cons field value fields document hvalue hrest ih =>
    rw [List.zip_cons_cons, List.forall_mem_cons, List.forall₂_cons,
      ih fun field hfield => hclear field (List.mem_cons_of_mem _ hfield),
      ← Adapter.exists_write_eq_ok_iff (hclear field List.mem_cons_self) hvalue]
    exact and_congr_left' (exists_map_eq_ok_iff _)

/-- **The values of all fields**, by their keys, make up the document. -/
theorem completed_entries {entries : List Entry} {key : DocumentField → Text} {values : ReadValues}
    (h : ∀ entry ∈ entries, values.lookup (key entry.field) = some entry.value ∨
      values.lookup (key entry.field) = none ∧ entry.field.mayBeAbsent = true ∧
        entry.field.absent = entry.value) :
    completed (entries.map (·.field)) key values = .ok (entries.map (·.value)) := by
  rw [completed, mapM_eq_ok_iff, List.forall₂_map_left_iff, List.forall₂_map_right_iff,
    List.forall₂_same]
  intro entry hentry
  rcases h entry hentry with hfound | ⟨hnone, habsent, hvalue⟩
  · rw [hfound]
  · rw [hnone, habsent, hvalue]
    rfl

end EnumCodegen
