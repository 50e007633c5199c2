import EnumCodegen.Code.Item
import EnumCodegen.Proofs.Text.Quoted
import Mathlib.Data.List.DropRight

/-!
# Reading generated code

A reader for the matches of generated code. It passes over blanks, expects the fixed parts word for
word, and reads the string literals of the arms by the rules of the language. Since it passes over
blanks, what it finds does not depend on how deep the code is indented, and since a literal ends at
its own closing quote, arms read back whatever texts they hold.

## Main definitions

* `after?`, `afterAll?`: passing over fixed parts
* `readArm?`, `readArms`, `readMatch?`: reading arms and a match

## Main results

* `readArms_lines`: arms read back from their lines
* `readMatch?_block`: a match reads back from its written form
-/

namespace EnumCodegen.Code

open Text (isBlank)

/-! ## Words and literals -/

/-- The code from its first character that is no blank. -/
def skipBlanks (code : Text) : Text :=
  code.dropWhile isBlank

/-- What follows a passage that stands next, behind blanks. -/
def after? (passage code : Text) : Option Text :=
  passage.isPrefixOf? (skipBlanks code)

/-- What follows some passages that stand next, each behind blanks. -/
def afterAll? : List Text → Text → Option Text
  | [], code => some code
  | passage :: passages, code => (after? passage code).bind (afterAll? passages)

/-- A string literal that stands next, behind blanks, and what follows it. -/
def readLiteral? (code : Text) : Option (Text × Text) :=
  Text.unquote? (skipBlanks code)

/-- An arm that stands next, and what follows it. -/
def readArm? (code : Text) : Option (Arm × Text) := do
  let (input, code) ← readLiteral? code
  let code ← after? "=>" code
  let (output, code) ← readLiteral? code
  let code ← after? "," code
  return (⟨input, output⟩, code)

theorem after?_length_le {passage code rest : Text} (h : after? passage code = some rest) :
    rest.length ≤ code.length := by
  have hcode := congrArg List.length (List.isPrefixOf?_eq_some_iff_append_eq.mp h)
  have hskip : (skipBlanks code).length ≤ code.length := (List.dropWhile_sublist _).length_le
  rw [List.length_append] at hcode
  omega

theorem readLiteral?_length {code rest literal : Text}
    (h : readLiteral? code = some (literal, rest)) : rest.length < code.length :=
  Nat.lt_of_lt_of_le (Text.unquote?_length h) (List.dropWhile_sublist _).length_le

theorem readArm?_length {code rest : Text} {arm : Arm} (h : readArm? code = some (arm, rest)) :
    rest.length < code.length := by
  simp only [readArm?, Option.bind_eq_bind, Option.bind_eq_some_iff, Prod.exists] at h
  obtain ⟨input, code₁, h₁, code₂, h₂, output, code₃, h₃, code₄, h₄, h⟩ := h
  obtain rfl : code₄ = rest := congrArg Prod.snd (Option.some.inj h)
  have := readLiteral?_length h₁
  have := after?_length_le h₂
  have := readLiteral?_length h₃
  have := after?_length_le h₄
  omega

/-- **The arms** that stand next, and what follows them from its first character that is no
blank. -/
def readArms (code : Text) : List Arm × Text :=
  match _h : readArm? code with
  | some (arm, rest) => (readArms rest).map (arm :: ·) id
  -- whatever ends the match stands next then
  | none => ([], skipBlanks code)
termination_by code.length
decreasing_by exact readArm?_length _h

/-- The arms of a match, from its head to its end. The last arm is the one for all other texts. -/
def readMatch? (head other close code : Text) : Option (List Arm × Text) := do
  let code ← afterAll? [head, "\x7b"] code
  let (arms, code) := readArms code
  let code ← afterAll? [other, close] code
  return (arms, code)

/-! ## Blanks and passages -/

@[simp] theorem skipBlanks_blank {c : Char} (hc : isBlank c = true) (code : Text) :
    skipBlanks (c :: code) = skipBlanks code :=
  List.dropWhile_cons_of_pos hc

theorem skipBlanks_solid {c : Char} (hc : isBlank c = false) (code : Text) :
    skipBlanks (c :: code) = c :: code :=
  List.dropWhile_cons_of_neg (by simp [hc])

@[simp] theorem skipBlanks_skipBlanks (code : Text) :
    skipBlanks (skipBlanks code) = skipBlanks code :=
  List.dropWhile_idempotent _ _

@[simp] theorem indented_nil : indented [] = [] := rfl

/-- Indentation is blank. -/
@[simp] theorem skipBlanks_indented (line code : Text) :
    skipBlanks (indented line ++ code) = skipBlanks (line ++ code) := by
  unfold indented
  split <;> rfl

theorem skipBlanks_indented_indented (line code : Text) :
    skipBlanks ((indented ∘ indented) line ++ code) = skipBlanks (line ++ code) := by
  rw [Function.comp_apply, skipBlanks_indented, skipBlanks_indented]

/-- What stands next does not depend on the blanks before it. -/
theorem after?_congr {passage code code' : Text} (h : skipBlanks code = skipBlanks code') :
    after? passage code = after? passage code' := by
  rw [after?, after?, h]

theorem afterAll?_congr {passage code code' : Text} (passages : List Text)
    (h : skipBlanks code = skipBlanks code') :
    afterAll? (passage :: passages) code = afterAll? (passage :: passages) code' := by
  rw [afterAll?, afterAll?, after?_congr h]

theorem readLiteral?_congr {code code' : Text} (h : skipBlanks code = skipBlanks code') :
    readLiteral? code = readLiteral? code' := by
  rw [readLiteral?, readLiteral?, h]

theorem readArm?_congr {code code' : Text} (h : skipBlanks code = skipBlanks code') :
    readArm? code = readArm? code' := by
  rw [readArm?, readArm?, readLiteral?_congr h]

/-- Whether a passage starts with a character that is no blank. -/
def isSolid (passage : Text) : Bool :=
  passage.head?.any (!isBlank ·)

theorem skipBlanks_of_isSolid {passage : Text} (h : isSolid passage = true) (code : Text) :
    skipBlanks (passage ++ code) = passage ++ code := by
  cases passage with
  | nil => simp [isSolid] at h
  | cons c passage => exact skipBlanks_solid (by simpa [isSolid] using h) _

/-- A passage that stands next is passed over. -/
theorem after?_append {passage : Text} (h : isSolid passage = true) (code : Text) :
    after? passage (passage ++ code) = some code := by
  rw [after?, skipBlanks_of_isSolid h]
  exact List.isPrefixOf?_eq_some_iff_append_eq.mpr rfl

@[simp] theorem readLiteral?_quoted (literal code : Text) :
    readLiteral? (literal.quoted ++ code) = some (literal, code) :=
  Text.unquote?_quoted literal code

/-! ## Arms -/

/-- An arm reads back from its written form. -/
theorem readArm?_armLine (arm : Arm) (code : Text) :
    readArm? (armLine arm ++ code) = some (arm, code) := by
  have hinput : readLiteral? (armLine arm ++ code) =
      some (arm.input, " => ".toList ++ (arm.output.quoted ++ (",".toList ++ code))) := by
    rw [armLine]
    simp only [List.append_assoc]
    exact readLiteral?_quoted _ _
  have harrow : after? "=>" (" => ".toList ++ (arm.output.quoted ++ (",".toList ++ code))) =
      some (' ' :: (arm.output.quoted ++ (",".toList ++ code))) := rfl
  have houtput : readLiteral? (' ' :: (arm.output.quoted ++ (",".toList ++ code))) =
      some (arm.output, ",".toList ++ code) :=
    readLiteral?_quoted arm.output (",".toList ++ code)
  have hcomma : after? "," (",".toList ++ code) = some code := rfl
  simp only [readArm?, hinput, harrow, houtput, hcomma, Option.bind_eq_bind, Option.bind_some]
  rfl

/-- Code that starts with neither a blank nor a quote is no arm. -/
theorem readArm?_eq_none {c : Char} (hc : isBlank c = false) (hquote : c ≠ '"') (code : Text) :
    readArm? (c :: code) = none := by
  have hliteral : readLiteral? (c :: code) = none := by
    rw [readLiteral?, skipBlanks_solid hc, Text.unquote?]
    rintro rest ⟨⟩
    exact hquote rfl
  rw [readArm?, hliteral]
  rfl

theorem readArms_of_some {code rest : Text} {arm : Arm} (h : readArm? code = some (arm, rest)) :
    readArms code = (readArms rest).map (arm :: ·) id := by
  rw [readArms]
  split
  · next arm' rest' h' =>
    obtain ⟨rfl, rfl⟩ := Prod.mk.inj (Option.some.inj (h.symm.trans h'))
    rfl
  · next h' => simp [h] at h'

theorem readArms_of_none {code : Text} (h : readArm? code = none) :
    readArms code = ([], skipBlanks code) := by
  rw [readArms]
  split
  · next h' => simp [h] at h'
  · rfl

theorem readArms_congr {code code' : Text} (h : skipBlanks code = skipBlanks code') :
    readArms code = readArms code' := by
  have hcongr := readArm?_congr h
  rcases harm : readArm? code with _ | ⟨arm, rest⟩
  · rw [readArms_of_none harm, readArms_of_none (hcongr ▸ harm), h]
  · have harm' : readArm? code' = some (arm, rest) := hcongr ▸ harm
    rw [readArms_of_some harm, readArms_of_some harm']

/-- **Arms read back from their lines**, however deep these are indented, up to what is no arm. -/
theorem readArms_lines {indent : Text → Text}
    (hindent : ∀ line code, skipBlanks (indent line ++ code) = skipBlanks (line ++ code))
    (arms : List Arm) {rest : Text} (hrest : readArm? rest = none) :
    readArms (text (arms.map fun arm => indent (armLine arm)) ++ rest) =
      (arms, skipBlanks rest) := by
  -- Reading an arm leaves the line end behind it, which is a blank before the next one.
  induction arms with
  | nil => exact readArms_of_none hrest
  | cons arm arms ih =>
    rw [List.map_cons, text_cons, List.append_assoc, readArms_congr (hindent _ _),
      readArms_of_some (readArm?_armLine arm _), List.cons_append,
      readArms_congr (skipBlanks_blank rfl _), ih]
    rfl

/-! ## Matches -/

theorem readMatch?_newline {head other close : Text} (code : Text) :
    readMatch? head other close ('\n' :: code) = readMatch? head other close code := rfl

theorem text_block_indented (head : Text) (body : List Text) (close code : Text) :
    text ((block head body close).map indented) ++ code =
      indented (head ++ " \x7b") ++ '\n' ::
        (text (body.map (indented ∘ indented)) ++ (indented close ++ '\n' :: code)) := by
  simp [block]

/-- **A match reads back** from its written form, however deep this is indented. -/
theorem readMatch?_block {indent : Text → Text}
    (hindent : ∀ line code, skipBlanks (indent line ++ code) = skipBlanks (line ++ code))
    {head other close : Text} (hhead : isSolid head = true) (hother : isSolid other = true)
    (hquote : other.head? ≠ some '"') (hclose : isSolid close = true) (arms : List Arm)
    (code : Text) :
    readMatch? head other close
        (text ((block head (arms.map armLine ++ [other]) close).map indent) ++ code) =
      some (arms, '\n' :: code) := by
  have hdeep (line code : Text) :
      skipBlanks (indent (indented line) ++ code) = skipBlanks (line ++ code) := by
    rw [hindent, skipBlanks_indented]
  let last : Text := indent (indented other) ++ '\n' :: (indent close ++ '\n' :: code)
  have hlast : skipBlanks last = other ++ '\n' :: (indent close ++ '\n' :: code) := by
    rw [hdeep, skipBlanks_of_isSolid hother]
  -- The arm for all other texts is no arm of the list: it starts with no quote.
  have hnone : readArm? last = none := by
    obtain ⟨c, passage, rfl⟩ : ∃ c passage, other = c :: passage := by
      cases other with
      | nil => simp [isSolid] at hother
      | cons c passage => exact ⟨c, passage, rfl⟩
    rw [← readArm?_congr (skipBlanks_skipBlanks last), hlast]
    exact readArm?_eq_none (by simpa [isSolid] using hother) (by simpa using hquote) _
  have hopen (code : Text) :
      afterAll? [head, "\x7b"] (indent (head ++ " \x7b") ++ code) = some code := by
    rw [afterAll?_congr _ (hindent _ _), List.append_assoc, afterAll?, after?_append hhead]
    rfl
  have harms : readArms ('\n' :: (text (arms.map fun arm => indent (indented (armLine arm))) ++
      last)) = (arms, skipBlanks last) := by
    rw [readArms_congr (skipBlanks_blank rfl _)]
    exact readArms_lines hdeep arms hnone
  have hend : afterAll? [other, close] (skipBlanks last) = some ('\n' :: code) := by
    rw [hlast, afterAll?, after?_append hother, Option.bind_some,
      afterAll?_congr _ ((skipBlanks_blank rfl _).trans (hindent _ _)), afterAll?,
      after?_append hclose]
    rfl
  have hcode : text ((block head (arms.map armLine ++ [other]) close).map indent) ++ code =
      indent (head ++ " \x7b") ++ '\n' ::
        (text (arms.map fun arm => indent (indented (armLine arm))) ++ last) := by
    simp [block, last, Function.comp_def]
  rw [hcode, readMatch?, hopen]
  simp only [Option.bind_eq_bind, Option.bind_some, harms, hend]
  rfl

end EnumCodegen.Code
