import EnumCodegen.Proofs.Xml.Markup

/-!
# The parts of a written document

Written attributes are read one by one, each up to its closing quote. The text of an element loses no
blanks if trimming leaves it alone, so the parts of an element are its start, its text as it was
before it was written, and its end.

## Main definitions

* `Xml.elementParts`, `Xml.contentParts`: the parts of elements with text as content

## Main results

* `Xml.attributes_attributesText`, `Xml.attributesWithRepeats_attributesText`: written attributes come
  back
* `Xml.parts_documentText`: the parts of a document
-/

namespace EnumCodegen.Xml

open Text (isBlank)

/-! ## Attributes -/

/-- Text without quotes is read up to the quote behind it. -/
theorem upTo?_quote {text : Text} (h : '"' ∉ text) (rest : Text) :
    upTo? ['"'] (text ++ '"' :: rest) = some (text, rest) := by
  induction text with
  | nil => simp [upTo?, List.isPrefixOf?]
  | cons c text ih =>
    rw [List.mem_cons, not_or] at h
    simp [upTo?, List.isPrefixOf?, h.1, ih h.2]

/-- The first of written attributes. -/
theorem attributesText_cons (name value : Text) (attributes : List (Text × Text)) :
    attributesText ((name, value) :: attributes) =
      ' ' :: (name ++ '=' :: '"' :: (escapeValue value ++ '"' :: attributesText attributes)) := by
  simp [attributesText]

/-- **One attribute** is read up to its closing quote. -/
theorem attributesFrom_cons {name : Text} (hname : IsName name) {unique : Bool} {seen : List Text}
    (hseen : name ∉ seen) {value : Text} (hvalue : '"' ∉ value) (steps : Nat) (rest : Text) :
    attributesFrom unique (steps + 1) seen (' ' :: (name ++ '=' :: '"' :: (value ++ '"' :: rest))) =
      some (name, value) :: attributesFrom unique steps (name :: seen) rest := by
  obtain ⟨c, tail, rfl, hc⟩ := hname.exists_eq_cons
  have htail : ∀ d ∈ tail, (!isBlank d && decide (d ≠ '=')) = true := by
    intro d hd
    have hordinary := hname.ordinary d (List.mem_cons_of_mem _ hd)
    rw [isBlank_of_isOrdinary hordinary]
    have hequals : d ≠ '=' := ne_of_isOrdinary (by decide) hordinary
    simpa using hequals
  have hstart : (' ' :: (c :: tail ++ '=' :: '"' :: (value ++ '"' :: rest))).dropWhile isBlank =
      c :: (tail ++ '=' :: '"' :: (value ++ '"' :: rest)) := by
    rw [List.dropWhile_cons_of_pos (by decide), List.cons_append,
      List.dropWhile_cons_of_neg (by rw [isBlank_of_isOrdinary hc]; exact Bool.false_ne_true)]
  rw [attributesFrom, hstart]
  simp only [List.takeWhile_append_of_pos htail, List.dropWhile_append_of_pos htail]
  simp [isBlank, hseen, upTo?_quote hvalue]

/-- **Written attributes come back**, each with its value as written. -/
theorem attributesFrom_attributesText {attributes : List (Text × Text)}
    (hnames : ∀ pair ∈ attributes, IsName pair.1)
    (hnodup : (attributes.map (·.1)).Nodup) (unique : Bool) {seen : List Text}
    (hseen : ∀ pair ∈ attributes, pair.1 ∉ seen) {steps : Nat}
    (hsteps : attributes.length < steps) :
    attributesFrom unique steps seen (attributesText attributes) =
      attributes.map fun (name, value) => some (name, escapeValue value) := by
  induction attributes generalizing seen steps with
  | nil =>
    obtain ⟨steps, rfl⟩ := Nat.exists_eq_succ_of_ne_zero (Nat.ne_zero_of_lt hsteps)
    rfl
  | cons first attributes ih =>
    obtain ⟨name, value⟩ := first
    obtain ⟨steps, rfl⟩ := Nat.exists_eq_succ_of_ne_zero (Nat.ne_zero_of_lt hsteps)
    rw [List.forall_mem_cons] at hnames hseen
    rw [List.map_cons, List.nodup_cons] at hnodup
    rw [attributesText_cons, attributesFrom_cons hnames.1 hseen.1 (notMem_escapeValue value),
      List.map_cons, ih hnames.2 hnodup.2 ?_ (Nat.lt_of_succ_lt_succ hsteps)]
    intro other hother hmem
    rcases List.mem_cons.mp hmem with heq | hmem
    · exact hnodup.1 (heq ▸ List.mem_map_of_mem hother)
    · exact hseen.2 other hother hmem

theorem length_le_attributesText (attributes : List (Text × Text)) :
    attributes.length ≤ (attributesText attributes).length := by
  induction attributes with
  | nil => exact Nat.zero_le _
  | cons first attributes ih =>
    rw [attributesText_cons, List.length_cons, List.length_cons, List.length_append]
    simp only [List.length_cons, List.length_append]
    omega

section

variable {attributes : List (Text × Text)}
  (hnames : ∀ pair ∈ attributes, IsName pair.1)
  (hnodup : (attributes.map (·.1)).Nodup)

include hnames hnodup

theorem attributes_attributesText :
    Xml.attributes (attributesText attributes) =
      attributes.map fun (name, value) => some (name, escapeValue value) :=
  attributesFrom_attributesText hnames hnodup true (fun _ _ => List.not_mem_nil)
    (Nat.lt_succ_of_le (length_le_attributesText attributes))

theorem attributesWithRepeats_attributesText :
    attributesWithRepeats (attributesText attributes) =
      attributes.map fun (name, value) => some (name, escapeValue value) :=
  attributesFrom_attributesText hnames hnodup false (fun _ _ => List.not_mem_nil)
    (Nat.lt_succ_of_le (length_le_attributesText attributes))

end

/-! ## Texts and elements -/

/-- **The text of an element** is its value, if trimming leaves it alone. -/
theorem textPart_escapeText {text : Text} (hne : text ≠ [])
    (htrimmed : Text.trimmed isBlank text = text) :
    textPart [.text (escapeText text)] = [.text (some text)] := by
  have hescaped := trimmed_escapeText htrimmed
  have hends := Text.trimmed_eq_self_iff.mp hescaped
  obtain ⟨c, rest, hcons⟩ := List.exists_cons_of_ne_nil (mt escapeText_eq_nil_iff.mp hne)
  have hfirst : isBlank c = false := hends.1 c (by rw [hcons]; rfl)
  have hdrop : (escapeText text).dropWhile isBlank = escapeText text := by
    rw [hcons, List.dropWhile_cons_of_neg (by rw [hfirst]; exact Bool.false_ne_true)]
  have htrimmedEnd : Text.trimmedEnd isBlank (escapeText text) = escapeText text := by
    rw [Text.trimmed, Text.trimmedStart, hdrop] at hescaped
    exact hescaped
  have hblank : (escapeText text).all isBlank = false := by
    rw [hcons, List.all_cons, hfirst, Bool.false_and]
  have hkept : withoutBlankStart [.text (escapeText text)] = [.text (escapeText text)] := by
    rw [withoutBlankStart, hblank, hdrop]
    rfl
  rw [textPart, hkept]
  simp [joinedValue?, htrimmedEnd, unescape?_escapeText]

/-- The parts behind the start of an element with text as content. -/
def insideParts (content : Text) : List Part :=
  if content.isEmpty then [.closed] else [.text (some content), .closed]

/-- **The parts of an element** with text as content. -/
def elementParts (name content : Text) : List Part :=
  .opened name [] :: insideParts content

/-- The parts of elements that follow one another. -/
def contentParts (elements : List (Text × Text)) : List Part :=
  elements.flatMap fun (name, content) => elementParts name content

@[simp] theorem contentParts_nil : contentParts [] = [] :=
  rfl

@[simp] theorem contentParts_cons (element : Text × Text) (elements : List (Text × Text)) :
    contentParts (element :: elements) =
      elementParts element.1 element.2 ++ contentParts elements :=
  rfl

@[simp] theorem contentParts_append (front back : List (Text × Text)) :
    contentParts (front ++ back) = contentParts front ++ contentParts back :=
  List.flatMap_append

theorem length_le_contentParts (elements : List (Text × Text)) :
    elements.length ≤ (contentParts elements).length := by
  induction elements with
  | nil => exact Nat.zero_le _
  | cons element elements ih =>
    have helement : 0 < (elementParts element.1 element.2).length := Nat.succ_pos _
    rw [contentParts_cons, List.length_append, List.length_cons]
    omega

theorem partsFrom_elementMarkup (name : Text) {content : Text}
    (htrimmed : Text.trimmed isBlank content = content) (rest : List Markup) :
    partsFrom [] (elementMarkup name content ++ rest) =
      elementParts name content ++ partsFrom [] rest := by
  unfold elementMarkup elementParts insideParts
  split
  · rfl
  · next hcontent =>
    have htext := textPart_escapeText (mt List.isEmpty_iff.mpr hcontent) htrimmed
    have hnone : textPart [] = [] := rfl
    simp only [List.cons_append, List.nil_append, partsFrom, htext, hnone]

theorem partsFrom_contentMarkup {elements : List (Text × Text)}
    (h : ∀ element ∈ elements, Text.trimmed isBlank element.2 = element.2) (rest : List Markup) :
    partsFrom [] (contentMarkup elements ++ rest) = contentParts elements ++ partsFrom [] rest := by
  induction elements with
  | nil => rfl
  | cons element elements ih =>
    rw [List.forall_mem_cons] at h
    rw [contentMarkup, List.flatMap_cons, List.append_assoc, partsFrom_elementMarkup _ h.1,
      ← contentMarkup, ih h.2, contentParts_cons, List.append_assoc]

/-- **The parts of a document.** -/
theorem parts_documentText {name : Text} (hname : IsName name) {attributes : List (Text × Text)}
    (hattributes : ∀ pair ∈ attributes, IsName pair.1)
    {elements : List (Text × Text)}
    (helements : ∀ element ∈ elements, IsName element.1 ∧ Text.trimmed isBlank element.2 = element.2) :
    parts (documentText name attributes elements) =
      .opened name (attributesText attributes) :: (contentParts elements ++ [.closed]) := by
  have hnone : textPart [] = [] := rfl
  rw [parts, markup_documentText hname hattributes fun element helement =>
    (helements element helement).1, partsFrom, hnone, List.nil_append,
    partsFrom_contentMarkup fun element helement => (helements element helement).2]
  rfl

end EnumCodegen.Xml
