import EnumCodegen.Proofs.Document.Entry
import EnumCodegen.Proofs.Xml.Cursor
import Mathlib.Data.List.Nodup

/-!
# The nodes of a document are read back

An attribute carries the string of a field, and elements carry the strings of a field one by one. The
elements of a list are taken together, up to an element with another name. So a step of reading takes
all nodes of one field, and finds a key that it has not met.

## Main definitions

* `Entry.texts`, `Entry.key`: the strings of an entry and the key of its field
* `Entry.IsLegible`: entries that XML can carry
* `Entry.IsElement`, `Entry.IsAttribute`: entries that elements and attributes carry
* `EndsItems`: what may follow the elements of a field

## Main results

* `readItems_contentParts`, `readHeld_entry`: what the elements of a field hold
* `readElements_entries`, `readAttributes_entries`: elements and attributes as values of their fields
-/

namespace EnumCodegen

open Xml
open Text (isBlank)

/-! ## Entries -/

namespace Entry

/-- **The strings of an entry.** -/
def texts (entry : Entry) : List Text :=
  heldStrings entry.held

/-- The name of the node of an entry. -/
def name (entry : Entry) : Text :=
  entry.field.node.name

/-- The key of the node of an entry. -/
def key (entry : Entry) : Text :=
  entry.field.node.key

/-- **An entry that XML can carry**: its node has a name without marks, trimming leaves its strings
alone, and a list is no attribute. -/
structure IsLegible (entry : Entry) : Prop extends entry.IsWritten where
  isName : IsName entry.name
  trimmed : ∀ text ∈ entry.texts, Text.trimmed isBlank text = text
  single : entry.field.holdsList = true → entry.field.node = .element entry.name

/-- The strings of an entry, each with the name of the node. -/
def labelled (entry : Entry) : List (Text × Text) :=
  entry.texts.map (entry.name, ·)

end Entry

/-! ## Elements -/

/-- What follows the elements of a list: the end of the element around them, or an element with
another name. -/
def EndsItems (name : Text) (rest : List Part) : Prop :=
  (∃ more, rest = .closed :: more) ∨
    ∃ other content more, rest = elementParts other content ++ more ∧ other ≠ name

/-- **The items of a list** are the texts of the elements up to another one. -/
theorem readItems_contentParts {name : Text} (texts : List Text) (depth : Nat) {rest : List Part}
    (hrest : EndsItems name rest) {steps : Nat} (hsteps : texts.length < steps) :
    readItems name steps (.within (depth + 1) (contentParts (texts.map (name, ·)) ++ rest)) =
      .ok (texts, .within (depth + 1) rest) := by
  induction texts generalizing steps with
  | nil =>
    obtain ⟨steps, rfl⟩ := Nat.exists_eq_succ_of_ne_zero (Nat.ne_zero_of_lt hsteps)
    rcases hrest with ⟨more, rfl⟩ | ⟨other, content, more, rfl, hother⟩
    · rfl
    · -- an element with another name is left where it is
      have hnext := Cursor.next?_element (depth + 1) more other content
      rw [List.map_nil, contentParts_nil, List.nil_append, readItems, hnext]
      simp only [expectPlace, bind, Except.bind, if_neg hother]
      rfl
  | cons text texts ih =>
    obtain ⟨steps, rfl⟩ := Nat.exists_eq_succ_of_ne_zero (Nat.ne_zero_of_lt hsteps)
    have hnext := Cursor.next?_element (depth + 1) (contentParts (texts.map (name, ·)) ++ rest) name
      text
    have htext := Cursor.readElementText_insideParts (depth + 1)
      (contentParts (texts.map (name, ·)) ++ rest) text
    rw [List.map_cons, contentParts_cons, List.append_assoc, readItems, hnext]
    simp only [expectPlace, bind, Except.bind, if_true, htext, ih (Nat.lt_of_succ_lt_succ hsteps)]
    rfl

/-- **What the elements of a field hold** is what its value is written as. -/
theorem readHeld_entry {entry : Entry} (hentry : entry.IsWritten) {text : Text} {texts : List Text}
    (htexts : entry.texts = text :: texts) (outermost : Text) (depth : Nat) {rest : List Part}
    (hrest : EndsItems entry.name rest) :
    readHeld entry.field outermost entry.name []
        (.within (depth + 1) (contentParts entry.labelled ++ rest))
        (.within (depth + 2) (insideParts text ++
          (contentParts (texts.map (entry.name, ·)) ++ rest))) =
      .ok (entry.held, .within (depth + 1) rest) := by
  unfold Entry.texts at htexts
  rcases hentry.holds.shape with ⟨only, hheld, hsingle⟩ | ⟨hheld, -, -⟩ |
    ⟨all, ns, hheld, -, -, enum, hkind⟩
  · -- a string is the text of the only element
    rw [hheld] at htexts ⊢
    obtain ⟨rfl, rfl⟩ := List.cons.inj htexts
    have hread := Cursor.readElementText_insideParts (depth + 1) rest only
    rw [List.map_nil, contentParts_nil, List.nil_append, readHeld]
    split
    · next enum hkind => simp [DocumentField.holdsList, hkind] at hsingle
    · have hscope := Cursor.scopeAhead_insideParts (depth + 2) rest only
      simp only [hscope, Scope.marksAbsence_eq_false, Bool.or_self, Bool.false_eq_true, if_false]
      rw [hread]
      rfl
    · rw [hread]
      rfl
  · -- null has no element
    rw [hheld] at htexts
    cases htexts
  · -- a list takes every element of the name, and each of them allows for a step
    have hall : entry.texts = all := by rw [Entry.texts, hheld, Adapter.heldStrings_list]
    have hsteps : entry.texts.length < (contentParts entry.labelled ++ rest).length + 1 := by
      have hlength := length_le_contentParts entry.labelled
      rw [Entry.labelled, List.length_map] at hlength
      rw [Entry.labelled, List.length_append]
      omega
    have hread := readItems_contentParts entry.texts depth hrest hsteps
    simp only [readHeld, hkind, Cursor.within, Entry.labelled] at hread ⊢
    rw [hread, hall, hheld]
    rfl

/-- A name without marks is its own local name. -/
theorem localName_eq_self {name : Text} (h : IsName name) : localName name = name := by
  have hcolon : name.dropWhile (· ≠ ':') = [] := by
    rw [List.dropWhile_eq_nil_iff]
    intro c hc
    exact decide_eq_true (ne_of_isOrdinary (by decide) (h.ordinary c hc))
  rw [localName, hcolon]

/-- The keys of further entries are not among those read, and one more does not change that. -/
theorem lookup_concat_eq_none {entries : List Entry} {values : ReadValues}
    (h : ∀ other ∈ entries, values.lookup other.key = none) {entry : Entry}
    (hkey : entry.key ∉ entries.map (·.key)) :
    ∀ other ∈ entries, (values ++ [(entry.key, entry.value)]).lookup other.key = none := by
  intro other hother
  have hnew := h other hother
  rw [lookup_eq_none_iff_notMem] at hnew ⊢
  rw [List.map_append, List.mem_append]
  rintro (hmem | hmem)
  · exact hnew hmem
  · have heq : other.key = entry.key := List.mem_singleton.mp hmem
    exact hkey (heq ▸ List.mem_map_of_mem hother)

/-- **The elements of entries**, and the end of the element around them. -/
def partsToEnd (entries : List Entry) : List Part :=
  contentParts (entries.flatMap (·.labelled)) ++ [.closed]

theorem partsToEnd_cons (entry : Entry) (entries : List Entry) :
    partsToEnd (entry :: entries) = contentParts entry.labelled ++ partsToEnd entries := by
  rw [partsToEnd, partsToEnd, List.flatMap_cons, contentParts_append, List.append_assoc]

/-- **An entry that elements carry.** -/
structure Entry.IsElement (entry : Entry) : Prop extends entry.IsLegible where
  node_eq : entry.field.node = .element entry.name
  texts_ne_nil : entry.texts ≠ []

/-- **An entry that an attribute carries.** -/
structure Entry.IsAttribute (entry : Entry) : Prop extends entry.IsLegible where
  node_eq : entry.field.node = .attribute entry.name
  texts_ne_nil : entry.texts ≠ []

/-- The key of an element is its local name. -/
theorem Entry.IsElement.localName_eq {entry : Entry} (h : entry.IsElement) :
    localName entry.name = entry.key := by
  rw [localName_eq_self h.isName, Entry.key, h.node_eq]
  rfl

/-- The key of an attribute. -/
theorem Entry.IsAttribute.attributeKey_eq {entry : Entry} (h : entry.IsAttribute) :
    attributeKey entry.name = entry.key := by
  rw [Entry.key, h.node_eq]
  unfold attributeKey
  split
  · rfl
  · rfl
  · rw [localName_eq_self h.isName]
    rfl

/-- An attribute carries one string. -/
theorem Entry.IsAttribute.exists_held_eq {entry : Entry} (h : entry.IsAttribute) :
    ∃ text, entry.held = .string text := by
  rcases h.holds.shape with ⟨text, hheld, -⟩ | ⟨hheld, -, -⟩ | ⟨-, -, -, -, -, enum, hkind⟩
  · exact ⟨text, hheld⟩
  · exact absurd (by rw [Entry.texts, hheld]; rfl) h.texts_ne_nil
  · have helement := h.single (by rw [DocumentField.holdsList, hkind])
    rw [h.node_eq] at helement
    cases helement

/-- Attributes that have different keys have different names. -/
theorem Entry.nodup_labelled {entries : List Entry} (h : ∀ entry ∈ entries, entry.IsAttribute)
    (hnodup : (entries.map (·.key)).Nodup) :
    ((entries.flatMap (·.labelled)).map (·.1)).Nodup := by
  have hkeys : entries.map (·.key) = (entries.map (·.name)).map attributeKey := by
    rw [List.map_map]
    exact List.map_congr_left fun entry hentry => (h entry hentry).attributeKey_eq.symm
  have hnames : (entries.flatMap (·.labelled)).map (·.1) = entries.map (·.name) := by
    rw [List.map_flatMap, ← List.flatMap_pure_eq_map]
    refine List.flatMap_congr fun entry hentry => ?_
    obtain ⟨text, hheld⟩ := (h entry hentry).exists_held_eq
    rw [Entry.labelled, Entry.texts, hheld]
    rfl
  rw [hkeys] at hnodup
  rw [hnames]
  exact List.Nodup.of_map _ hnodup

section Loops

variable {fields : List DocumentField} {entries : List Entry} {values : ReadValues}

/-- The elements of a field end where those of the next begin. -/
theorem endsItems_partsToEnd {name : Text} (hentries : ∀ entry ∈ entries, entry.IsElement)
    (hname : ∀ entry ∈ entries, entry.name ≠ name) : EndsItems name (partsToEnd entries) := by
  cases entries with
  | nil => exact .inl ⟨[], rfl⟩
  | cons entry entries =>
    obtain ⟨text, texts, htexts⟩ :=
      List.exists_cons_of_ne_nil (hentries entry List.mem_cons_self).texts_ne_nil
    refine .inr ⟨entry.name, text, contentParts (texts.map (entry.name, ·)) ++ partsToEnd entries,
      ?_, hname entry List.mem_cons_self⟩
    rw [partsToEnd_cons, Entry.labelled, htexts, List.map_cons, contentParts_cons,
      List.append_assoc]

/-- **Elements are read as the values of their fields**, one field after another. -/
theorem readElements_entries (hentries : ∀ entry ∈ entries, entry.IsElement)
    (hfind : ∀ entry ∈ entries, fields.find? (·.node.key = entry.key) = some entry.field)
    (hnodup : (entries.map (·.key)).Nodup) (hnew : ∀ entry ∈ entries, values.lookup entry.key = none)
    (outermost : Text) {steps : Nat} (hsteps : (partsToEnd entries).length ≤ steps) :
    readElements fields outermost steps values (.within 1 (partsToEnd entries)) =
      .ok (values ++ entries.map fun entry => (entry.key, entry.value)) := by
  -- at every step the cursor stands before the first element of the next entry
  induction entries generalizing values steps with
  | nil =>
    obtain ⟨steps, rfl⟩ := Nat.exists_eq_succ_of_ne_zero (Nat.ne_zero_of_lt hsteps)
    rw [List.map_nil, List.append_nil]
    rfl
  | cons entry entries ih =>
    rw [List.forall_mem_cons] at hentries hfind hnew
    rw [List.map_cons, List.nodup_cons] at hnodup
    obtain ⟨text, texts, htexts⟩ := List.exists_cons_of_ne_nil hentries.1.texts_ne_nil
    have hparts : partsToEnd (entry :: entries) = elementParts entry.name text ++
        (contentParts (texts.map (entry.name, ·)) ++ partsToEnd entries) := by
      rw [partsToEnd_cons, Entry.labelled, htexts, List.map_cons, contentParts_cons,
        List.append_assoc]
    rw [hparts, elementParts, List.cons_append, List.length_cons, List.length_append,
      List.length_append] at hsteps
    obtain ⟨steps, rfl⟩ : ∃ n, steps = n + 1 := ⟨steps - 1, by omega⟩
    -- elements have the name of their key, so no other entry goes on with this name
    have hends : EndsItems entry.name (partsToEnd entries) := by
      refine endsItems_partsToEnd hentries.2 fun other hother heq => hnodup.1 ?_
      rw [← hentries.1.localName_eq, ← heq, (hentries.2 other hother).localName_eq]
      exact List.mem_map_of_mem hother
    have hheld := readHeld_entry hentries.1.toIsWritten htexts outermost 0 hends
    rw [← partsToEnd_cons] at hheld
    have hread := hentries.1.read_held .xml
    have hleft : (partsToEnd entries).length ≤ steps := by omega
    have hrest := ih hentries.2 hfind.2 hnodup.2 (lookup_concat_eq_none hnew.2 hnodup.1) hleft
    have hnext := Cursor.next?_element 1
      (contentParts (texts.map (entry.name, ·)) ++ partsToEnd entries) entry.name text
    rw [← hparts] at hnext
    rw [readElements, hnext]
    simp only [expectPlace, bind, Except.bind, hentries.1.localName_eq, hfind.1, expectNew, hnew.1,
      Option.isSome_none, Bool.false_eq_true, if_false, hheld, hread, hrest]
    rw [List.append_assoc]
    rfl

/-- **Attributes are read as the values of their fields.** -/
theorem readAttributes_entries (hentries : ∀ entry ∈ entries, entry.IsAttribute)
    (hfind : ∀ entry ∈ entries, fields.find? (·.node.key = entry.key) = some entry.field)
    (hnodup : (entries.map (·.key)).Nodup)
    (hnew : ∀ entry ∈ entries, values.lookup entry.key = none) :
    readAttributes fields values ((entries.flatMap (·.labelled)).map fun (name, text) =>
        some (name, escapeValue text)) =
      .ok (values ++ entries.map fun entry => (entry.key, entry.value)) := by
  induction entries generalizing values with
  | nil =>
    rw [List.map_nil, List.append_nil]
    rfl
  | cons entry entries ih =>
    rw [List.forall_mem_cons] at hentries hfind hnew
    rw [List.map_cons, List.nodup_cons] at hnodup
    have hread := hentries.1.read_held .xml
    obtain ⟨text, hheld⟩ := hentries.1.exists_held_eq
    have htexts : entry.texts = [text] := by rw [Entry.texts, hheld]; rfl
    have hrest := ih hentries.2 hfind.2 hnodup.2 (lookup_concat_eq_none hnew.2 hnodup.1)
    rw [hheld] at hread
    rw [List.flatMap_cons, Entry.labelled, htexts, List.map_append, List.map_singleton,
      List.map_singleton, List.singleton_append, readAttributes]
    simp only [bind, Except.bind, hentries.1.attributeKey_eq, hfind.1, expectNew, hnew.1,
      Option.isSome_none, Bool.false_eq_true, if_false, unescape?_escapeValue, hread, hrest]
    rw [List.append_assoc]
    rfl

end Loops

end EnumCodegen
