import EnumCodegen.Proofs.Xml.Part
import EnumCodegen.Xml.Cursor

/-!
# Going through a written document

A written document declares no namespace. So no labels are in force anywhere in it, no start tag says
that its element holds nothing, and all that a cursor knows is how many elements are open.

## Main definitions

* `Xml.Cursor.within`: a place inside so many elements, where no label is in force

## Main results

* `Xml.Scope.enter?_attributesText`: attributes declare nothing
* `Xml.Scope.marksAbsence_eq_false`: no start tag marks absence
* `Xml.Cursor.next?_start_documentText`, `Xml.Cursor.next?_element`: what comes next
* `Xml.Cursor.readElementText_insideParts`: the text of an element is read
-/

namespace EnumCodegen.Xml

open Text (isBlank)

namespace Scope

/-- **No labels in force**, so many elements being open. -/
def bare (depth : Nat) : Scope :=
  ⟨depth, []⟩

/-- What is no declaration changes no label. -/
theorem declareAll?_eq_some (scope : Scope) {attributes : List (Text × Text)}
    (h : ∀ pair ∈ attributes, IsName pair.1) (value : Text → Text) :
    scope.declareAll? (attributes.map fun (name, text) => some (name, value text)) =
      some scope := by
  induction attributes with
  | nil => rfl
  | cons first attributes ih =>
    rw [List.forall_mem_cons] at h
    have hlabel : declaredLabel? first.1 = none := by
      -- a declaration has a colon in its name
      by_contra hne
      obtain ⟨label, hlabel⟩ := Option.ne_none_iff_exists'.mp hne
      have hname := List.isPrefixOf?_eq_some_iff_append_eq.mp hlabel
      have hcolon : ':' ∉ first.1 := h.1.notMem (by decide)
      exact hcolon (hname ▸ List.mem_append_left label (by decide))
    simp only [List.map_cons, declareAll?, declare?, hlabel, Option.bind_some]
    exact ih h.2

/-- **Attributes declare nothing.** -/
theorem enter?_attributesText (depth : Nat) {attributes : List (Text × Text)}
    (hnames : ∀ pair ∈ attributes, IsName pair.1)
    (hnodup : (attributes.map (·.1)).Nodup) :
    (bare depth).enter? (attributesText attributes) = some (bare (depth + 1)) := by
  rw [enter?, attributesWithRepeats_attributesText hnames hnodup]
  exact declareAll?_eq_some _ hnames escapeValue

/-- **No start tag says that its element holds nothing** where no label is in force. -/
theorem marksAbsence_eq_false (depth : Nat) (behindName : Text) :
    (bare depth).marksAbsence behindName = false := by
  have hmark : ∀ name value, (bare depth).isAbsenceMark name value = false := by
    intro name value
    have hspace : ∀ label, (bare depth).space? label = none := by
      intro label
      unfold space?
      split <;> rfl
    simp [isAbsenceMark, hspace]
  rw [marksAbsence, List.any_eq_false]
  rintro (_ | ⟨name, value⟩) -
  · exact Bool.false_ne_true
  · simp [hmark]

end Scope

namespace Cursor

/-- **A place inside so many elements**, where no label is in force. -/
def within (depth : Nat) (ahead : List Part) : Cursor :=
  ⟨.bare depth, ahead⟩

variable (depth : Nat) (rest : List Part)

theorem next?_opened {attributes : List (Text × Text)}
    (hnames : ∀ pair ∈ attributes, IsName pair.1)
    (hnodup : (attributes.map (·.1)).Nodup) (name : Text) :
    (within depth (.opened name (attributesText attributes) :: rest)).next? =
      some (.opened name (attributesText attributes), within (depth + 1) rest) := by
  rw [next?, within, nextIn?, Scope.enter?_attributesText depth hnames hnodup]
  rfl

/-- **The start of a document** is that of its outermost element. -/
theorem next?_start_documentText {name : Text} (hname : IsName name)
    {attributes : List (Text × Text)} (hnames : ∀ pair ∈ attributes, IsName pair.1)
    (hnodup : (attributes.map (·.1)).Nodup) {elements : List (Text × Text)}
    (helements : ∀ element ∈ elements,
      IsName element.1 ∧ Text.trimmed isBlank element.2 = element.2) :
    (start (documentText name attributes elements)).next? =
      some (.opened name (attributesText attributes),
        within 1 (contentParts elements ++ [.closed])) := by
  have hstart : start (documentText name attributes elements) =
      within 0 (parts (documentText name attributes elements)) := rfl
  rw [hstart, parts_documentText hname hnames helements]
  exact next?_opened 0 _ hnames hnodup name

theorem next?_element (name content : Text) :
    (within depth (elementParts name content ++ rest)).next? =
      some (.opened name [], within (depth + 1) (insideParts content ++ rest)) := by
  have hnone : ∀ pair ∈ ([] : List (Text × Text)), IsName pair.1 := by simp
  exact next?_opened depth (insideParts content ++ rest) hnone List.nodup_nil name

/-- **A look ahead** from behind a start tag finds no declaration. -/
theorem scopeAhead_insideParts (content : Text) :
    (within depth (insideParts content ++ rest)).scopeAhead = .bare depth := by
  unfold insideParts
  split <;> rfl

/-- **The text of an element** is read from behind its start. -/
theorem readElementText_insideParts (content : Text) :
    readElementText (within (depth + 1) (insideParts content ++ rest)) =
      .ok (content, within depth rest) := by
  unfold insideParts
  split
  · next hcontent =>
    rw [List.isEmpty_iff.mp hcontent]
    rfl
  · rfl

end Cursor

end EnumCodegen.Xml
