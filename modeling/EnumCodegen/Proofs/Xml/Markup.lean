import EnumCodegen.Document.Xml
import EnumCodegen.Proofs.Xml.Reference

/-!
# The markup of a written document

Quotes open and close within every written attribute, and names hold no marks. So a tag ends at the
bracket behind it, and an element is cut into its start, its text and its end, whatever follows.

## Main definitions

* `Xml.IsName`: names without marks and blanks
* `Xml.attributesText`: written attributes
* `Xml.Passed`: text that does not end a tag
* `Xml.elementMarkup`, `Xml.contentMarkup`: the markup of elements with text as content
* `Xml.documentText`: a document as text

## Main results

* `Xml.passed_attributesText`: attributes do not end a tag
* `Xml.markupFrom_contentText`: the markup of elements that follow one another
* `Xml.markup_documentText`: the markup of a document
-/

namespace EnumCodegen.Xml

open Text (isBlank)

/-! ## Names -/

/-- Whether a character means nothing in markup and is not blank. -/
def isOrdinary (c : Char) : Bool :=
  !isBlank c && !"<>/=:!?\"'".toList.contains c

/-- **A name without marks and blanks.** -/
structure IsName (name : Text) : Prop where
  ne_nil : name ≠ []
  ordinary : ∀ c ∈ name, isOrdinary c = true

instance (name : Text) : Decidable (IsName name) :=
  decidable_of_iff (name ≠ [] ∧ name.all isOrdinary = true)
    ⟨fun ⟨hne, hordinary⟩ => ⟨hne, List.all_eq_true.mp hordinary⟩,
      fun ⟨hne, hordinary⟩ => ⟨hne, List.all_eq_true.mpr hordinary⟩⟩

theorem isBlank_of_isOrdinary {c : Char} (h : isOrdinary c = true) : isBlank c = false := by
  simpa using (Bool.and_eq_true_iff.mp h).1

theorem ne_of_isOrdinary {c mark : Char} (hmark : "<>/=:!?\"'".toList.contains mark = true)
    (h : isOrdinary c = true) : c ≠ mark := by
  rintro rfl
  have := (Bool.and_eq_true_iff.mp h).2
  rw [hmark] at this
  cases this

namespace IsName

variable {name : Text}

theorem notMem (h : IsName name) {mark : Char}
    (hmark : "<>/=:!?\"'".toList.contains mark = true) : mark ∉ name :=
  fun hmem => ne_of_isOrdinary hmark (h.ordinary mark hmem) rfl

theorem isBlank_eq_false (h : IsName name) {c : Char} (hc : c ∈ name) : isBlank c = false :=
  isBlank_of_isOrdinary (h.ordinary c hc)

/-- A name begins with a character that means nothing in markup. -/
theorem exists_eq_cons (h : IsName name) : ∃ c rest, name = c :: rest ∧ isOrdinary c = true := by
  obtain ⟨c, rest, rfl⟩ := List.exists_cons_of_ne_nil h.ne_nil
  exact ⟨c, rest, rfl, h.ordinary c List.mem_cons_self⟩

end IsName

/-! ## Tags -/

/-- **Text that does not end a tag**: whatever the bracket behind it ends, it is part of. -/
def Passed (text : Text) : Prop :=
  ∀ rest, tagContent? none (text ++ rest) =
    (tagContent? none rest).map fun (content, after) => (text ++ content, after)

theorem passed_nil : Passed [] := fun rest => by
  cases h : tagContent? none rest <;> simp [h]

theorem Passed.append {front back : Text} (hfront : Passed front) (hback : Passed back) :
    Passed (front ++ back) := by
  intro rest
  rw [List.append_assoc, hfront, hback, Option.map_map]
  simp [Function.comp_def]

/-- Text without brackets and quotes does not end a tag. -/
theorem passed_of_notMem {text : Text} (h : ∀ c ∈ text, c ≠ '>' ∧ c ≠ '"' ∧ c ≠ '\'') :
    Passed text := by
  induction text with
  | nil => exact passed_nil
  | cons c text ih =>
    rw [List.forall_mem_cons] at h
    intro rest
    obtain ⟨hbracket, hquote, hsingle⟩ := h.1
    rw [List.cons_append, tagContent?]
    simp [hbracket, hquote, hsingle, ih h.2 rest, Function.comp_def]

theorem passed_singleton {c : Char} (h : c ≠ '>' ∧ c ≠ '"' ∧ c ≠ '\'') : Passed [c] :=
  passed_of_notMem (List.forall_mem_singleton.mpr h)

theorem IsName.passed {name : Text} (h : IsName name) : Passed name :=
  passed_of_notMem fun c hc => ⟨ne_of_isOrdinary (by decide) (h.ordinary c hc),
    ne_of_isOrdinary (by decide) (h.ordinary c hc), ne_of_isOrdinary (by decide) (h.ordinary c hc)⟩

/-- A quote that is open closes at the next one. -/
theorem tagContent?_quoted {text : Text} (h : '"' ∉ text) (rest : Text) :
    tagContent? (some '"') (text ++ '"' :: rest) =
      (tagContent? none rest).map fun (content, after) => (text ++ '"' :: content, after) := by
  induction text with
  | nil =>
    rw [List.nil_append, tagContent?]
    simp
  | cons c text ih =>
    rw [List.mem_cons, not_or] at h
    rw [List.cons_append, tagContent?]
    simp [Ne.symm h.1, ih h.2, Function.comp_def]

/-- Text in quotes does not end a tag. -/
theorem passed_quoted {text : Text} (h : '"' ∉ text) : Passed ('"' :: (text ++ ['"'])) := by
  intro rest
  rw [List.cons_append, List.append_assoc, List.singleton_append, tagContent?]
  simp [tagContent?_quoted h, Function.comp_def]

/-- **Written attributes**, by name and value. -/
def attributesText (attributes : List (Text × Text)) : Text :=
  attributes.flatMap fun (name, value) => ' ' :: name ++ "=\"" ++ escapeValue value ++ "\""

/-- **Attributes do not end a tag.** -/
theorem passed_attributesText {attributes : List (Text × Text)}
    (h : ∀ pair ∈ attributes, IsName pair.1) : Passed (attributesText attributes) := by
  induction attributes with
  | nil => exact passed_nil
  | cons first rest ih =>
    rw [List.forall_mem_cons] at h
    have hquoted := passed_quoted (notMem_escapeValue first.2)
    have hblank : Passed [' '] := passed_singleton (by decide)
    have hequals : Passed ['='] := passed_singleton (by decide)
    have hfirst := hblank.append (h.1.passed.append (hequals.append hquoted))
    have hall := hfirst.append (ih h.2)
    simpa [attributesText] using hall

/-- What a tag holds is up to its bracket. -/
theorem tagContent?_of_passed {content : Text} (h : Passed content) (after : Text) :
    tagContent? none (content ++ '>' :: after) = some (content, after) := by
  rw [h, tagContent?]
  simp

/-- The name of a tag is in front of the attributes. -/
theorem splitName_append {name : Text} (hname : IsName name) {behind : Text}
    (h : behind.head?.all isBlank = true) : splitName (name ++ behind) = (name, behind) := by
  have hordinary : ∀ c ∈ name, (!isBlank c) = true := by
    intro c hc
    rw [hname.isBlank_eq_false hc]
    rfl
  unfold splitName
  rw [List.takeWhile_append_of_pos hordinary, List.dropWhile_append_of_pos hordinary]
  cases behind with
  | nil => simp
  | cons c rest =>
    have hc : isBlank c = true := by simpa using h
    simp [hc]

theorem head?_attributesText (attributes : List (Text × Text)) :
    (attributesText attributes).head?.all isBlank = true := by
  cases attributes <;> simp [attributesText, isBlank]

/-- A start tag does not end like the tag of an empty element. -/
theorem getLast?_startTag {name : Text} (hname : IsName name) {attributes : List (Text × Text)} :
    (name ++ attributesText attributes).getLast? ≠ some '/' := by
  rcases List.eq_nil_or_concat' attributes with rfl | ⟨front, final, rfl⟩
  · intro hlast
    rw [attributesText, List.flatMap_nil, List.append_nil] at hlast
    exact hname.notMem (by decide) (List.mem_of_getLast? hlast)
  · have hquote : attributesText (front ++ [final]) =
        attributesText front ++ (' ' :: final.1 ++ "=\"" ++ escapeValue final.2) ++ ['"'] := by
      simp [attributesText]
    rw [hquote, ← List.append_assoc, List.getLast?_concat]
    decide

/-! ## One step -/

variable {name : Text} {opened : List Text} {attributes : List (Text × Text)}

/-- What follows the bracket of a tag that begins with a name. -/
theorem markupFrom_tag (opened : List Text) {content : Text}
    (hfirst : content.head?.any isOrdinary = true) (hpassed : Passed content) (steps : Nat)
    (after : Text) :
    markupFrom (steps + 1) opened ('<' :: (content ++ '>' :: after)) =
      if content.getLast? = some '/' then
        .opened (splitName content.dropLast).1 (splitName content.dropLast).2 :: .closed ::
          markupFrom steps opened after
      else
        .opened (splitName content).1 (splitName content).2 ::
          markupFrom steps ((splitName content).1 :: opened) after := by
  cases content with
  | nil => cases hfirst
  | cons c content =>
    have hc : isOrdinary c = true := by simpa using hfirst
    rw [markupFrom]
    · rw [tagContent?_of_passed hpassed after]
    -- the character is none of those that introduce other markup
    all_goals
      intro rest heq
      exact ne_of_isOrdinary (by decide) hc (List.cons.inj heq).1

/-- **A start tag.** -/
theorem markupFrom_startTag (hname : IsName name)
    (hattributes : ∀ pair ∈ attributes, IsName pair.1) (steps : Nat) (after : Text) :
    markupFrom (steps + 1) opened ('<' :: (name ++ attributesText attributes ++ '>' :: after)) =
      .opened name (attributesText attributes) :: markupFrom steps (name :: opened) after := by
  obtain ⟨c, rest, hcons, hc⟩ := hname.exists_eq_cons
  have hfirst : (name ++ attributesText attributes).head?.any isOrdinary = true := by
    simp [hcons, hc]
  rw [markupFrom_tag opened hfirst (hname.passed.append (passed_attributesText hattributes)),
    if_neg (getLast?_startTag hname), splitName_append hname (head?_attributesText attributes)]

/-- **The tag of an empty element.** -/
theorem markupFrom_emptyTag (hname : IsName name)
    (hattributes : ∀ pair ∈ attributes, IsName pair.1) (steps : Nat) (after : Text) :
    markupFrom (steps + 1) opened ('<' :: (name ++ attributesText attributes ++ '/' :: '>' :: after)) =
      .opened name (attributesText attributes) :: .closed :: markupFrom steps opened after := by
  obtain ⟨c, rest, hcons, hc⟩ := hname.exists_eq_cons
  have hslash : Passed ['/'] := passed_singleton (by decide)
  have hfirst : (name ++ attributesText attributes ++ ['/']).head?.any isOrdinary = true := by
    simp [hcons, hc]
  have htag := markupFrom_tag opened hfirst
    ((hname.passed.append (passed_attributesText hattributes)).append hslash) steps after
  rw [List.getLast?_concat, if_pos rfl, List.dropLast_concat,
    splitName_append hname (head?_attributesText attributes)] at htag
  simpa using htag

/-- **An end tag.** -/
theorem markupFrom_endTag (hname : IsName name) (steps : Nat) (after : Text) :
    markupFrom (steps + 1) (name :: opened) ('<' :: '/' :: (name ++ '>' :: after)) =
      .closed :: markupFrom steps opened after := by
  have hend : endName name = name := by
    obtain ⟨c, rest, hcons, hc⟩ := hname.exists_eq_cons
    have hblank : ¬name.all isBlank = true := by
      rw [hcons, List.all_cons, isBlank_of_isOrdinary hc, Bool.false_and]
      exact Bool.false_ne_true
    rw [endName, if_neg hblank]
    refine List.rdropWhile_eq_self_iff.mpr fun hne => ?_
    rw [hname.isBlank_eq_false (List.getLast_mem hne)]
    exact Bool.false_ne_true
  have hcontent := tagContent?_of_passed hname.passed after
  rw [markupFrom]
  · exact if_pos hend
  · exact hcontent

/-- **Text** up to the next tag. -/
theorem markupFrom_text {text : Text} (hne : text ≠ []) (hmark : '<' ∉ text) (steps : Nat)
    (after : Text) :
    markupFrom (steps + 1) opened (text ++ '<' :: after) =
      .text text :: markupFrom steps opened ('<' :: after) := by
  have hordinary : ∀ c ∈ text, decide (c ≠ '<') = true := by
    intro c hc
    exact decide_eq_true fun heq => hmark (heq ▸ hc)
  have htake : (text ++ '<' :: after).takeWhile (· ≠ '<') = text := by
    rw [List.takeWhile_append_of_pos hordinary]
    simp
  have hdrop : (text ++ '<' :: after).dropWhile (· ≠ '<') = '<' :: after := by
    rw [List.dropWhile_append_of_pos hordinary]
    simp
  obtain ⟨c, rest, rfl⟩ := List.exists_cons_of_ne_nil hne
  rw [List.cons_append] at htake hdrop ⊢
  rw [markupFrom, htake, hdrop]
  · exact List.cons_ne_nil _ _
  · intro _ heq
    exact hmark ((List.cons.inj heq).1 ▸ List.mem_cons_self)

/-! ## Elements and documents -/

/-- **The markup of an element** with text as content. -/
def elementMarkup (name content : Text) : List Markup :=
  if content.isEmpty then [.opened name [], .closed]
  else [.opened name [], .text (escapeText content), .closed]

/-- **An element** is cut into its markup, and enough steps are left for what follows. -/
theorem markupFrom_element (opened : List Text) (hname : IsName name) (content after : Text)
    {steps : Nat}
    (hsteps : (elementText name content ++ after).length < steps) :
    ∃ left, after.length < left ∧
      markupFrom steps opened (elementText name content ++ after) =
        elementMarkup name content ++ markupFrom left opened after := by
  have hname' : ∀ pair ∈ ([] : List (Text × Text)), IsName pair.1 := by simp
  cases hcontent : content.isEmpty with
  | true =>
    have htext : elementText name content ++ after =
        '<' :: (name ++ attributesText [] ++ '/' :: '>' :: after) := by
      simp [elementText, hcontent, attributesText]
    rw [htext] at hsteps ⊢
    obtain ⟨steps, rfl⟩ := Nat.exists_eq_succ_of_ne_zero (Nat.ne_zero_of_lt hsteps)
    refine ⟨steps, ?_, ?_⟩
    · simp only [List.length_append, List.length_cons] at hsteps
      omega
    · rw [elementMarkup, hcontent, if_pos rfl, markupFrom_emptyTag hname hname']
      rfl
  | false =>
    have hne : escapeText content ≠ [] := by
      rw [ne_eq, escapeText_eq_nil_iff, ← List.isEmpty_iff, hcontent]
      exact Bool.false_ne_true
    have htext : elementText name content ++ after =
        '<' :: (name ++ attributesText [] ++ '>' ::
          (escapeText content ++ '<' :: '/' :: (name ++ '>' :: after))) := by
      simp [elementText, hcontent, attributesText]
    rw [htext] at hsteps ⊢
    obtain ⟨steps, rfl⟩ : ∃ n, steps = n + 3 := ⟨steps - 3, by
      simp only [List.length_append, List.length_cons] at hsteps
      omega⟩
    refine ⟨steps, ?_, ?_⟩
    · simp only [List.length_append, List.length_cons] at hsteps
      omega
    · rw [elementMarkup, hcontent, if_neg Bool.false_ne_true, markupFrom_startTag hname hname',
        markupFrom_text hne (notMem_escapeText content), markupFrom_endTag hname]
      rfl

/-- **Elements that follow one another** as text, each with its name and content. -/
def contentText (elements : List (Text × Text)) : Text :=
  elements.flatMap fun (name, content) => elementText name content

/-- The markup of elements that follow one another. -/
def contentMarkup (elements : List (Text × Text)) : List Markup :=
  elements.flatMap fun (name, content) => elementMarkup name content

/-- **Elements that follow one another** are cut into their markup. -/
theorem markupFrom_contentText (opened : List Text) {elements : List (Text × Text)}
    (h : ∀ element ∈ elements, IsName element.1) (after : Text) {steps : Nat}
    (hsteps : (contentText elements ++ after).length < steps) :
    ∃ left, after.length < left ∧
      markupFrom steps opened (contentText elements ++ after) =
        contentMarkup elements ++ markupFrom left opened after := by
  induction elements generalizing steps with
  | nil => exact ⟨steps, hsteps, rfl⟩
  | cons element elements ih =>
    rw [List.forall_mem_cons] at h
    rw [contentText, List.flatMap_cons, List.append_assoc] at hsteps ⊢
    obtain ⟨next, hnext, hfirst⟩ := markupFrom_element opened h.1 element.2 _ hsteps
    obtain ⟨left, hleft, hrest⟩ := ih h.2 hnext
    refine ⟨left, hleft, ?_⟩
    rw [contentText] at hrest
    rw [hfirst, hrest, contentMarkup, contentMarkup, List.flatMap_cons, List.append_assoc]

/-- **A document as text**: its name, its attributes and its elements. -/
def documentText (name : Text) (attributes elements : List (Text × Text)) : Text :=
  let head := '<' :: name ++ attributesText attributes
  let content := contentText elements
  if content.isEmpty then head ++ "/>" else head ++ ">" ++ content ++ "</" ++ name ++ ">"

theorem documentText_nil (name : Text) (attributes : List (Text × Text)) :
    documentText name attributes [] =
      '<' :: (name ++ attributesText attributes ++ '/' :: '>' :: []) := by
  simp [documentText, contentText]

theorem documentText_cons (name : Text) (attributes : List (Text × Text)) (element : Text × Text)
    (elements : List (Text × Text)) :
    documentText name attributes (element :: elements) =
      '<' :: (name ++ attributesText attributes ++ '>' ::
        (contentText (element :: elements) ++ '<' :: '/' :: (name ++ '>' :: []))) := by
  have hne : (contentText (element :: elements)).isEmpty = false := by
    simp only [contentText, List.flatMap_cons, elementText]
    split <;> rfl
  simp only [documentText, hne]
  simp

/-- **The markup of a document.** -/
theorem markup_documentText (hname : IsName name)
    (hattributes : ∀ pair ∈ attributes, IsName pair.1)
    {elements : List (Text × Text)} (helements : ∀ element ∈ elements, IsName element.1) :
    markup (documentText name attributes elements) =
      .opened name (attributesText attributes) :: (contentMarkup elements ++ [.closed]) := by
  -- what begins with a bracket begins with no mark of the byte order
  have hmarkup : ∀ rest, markup ('<' :: rest) = markupFrom (rest.length + 2) [] ('<' :: rest) := by
    intro rest
    rw [markup, List.head?_cons, if_neg (by decide), List.length_cons]
  cases elements with
  | nil =>
    rw [documentText_nil, hmarkup, markupFrom_emptyTag hname hattributes, markupFrom]
    rfl
  | cons element elements =>
    rw [documentText_cons, hmarkup, markupFrom_startTag hname hattributes]
    have hsteps : (contentText (element :: elements) ++ '<' :: '/' :: (name ++ '>' :: [])).length <
        (name ++ attributesText attributes ++ '>' ::
          (contentText (element :: elements) ++ '<' :: '/' :: (name ++ '>' :: []))).length + 1 := by
      simp only [List.length_append, List.length_cons]
      omega
    obtain ⟨left, hleft, hcontent⟩ := markupFrom_contentText [name] helements _ hsteps
    obtain ⟨left, rfl⟩ := Nat.exists_eq_succ_of_ne_zero (Nat.ne_zero_of_lt hleft)
    have hend : markupFrom left [] [] = [] := by cases left <;> rfl
    rw [hcontent, markupFrom_endTag hname, hend]

end EnumCodegen.Xml
