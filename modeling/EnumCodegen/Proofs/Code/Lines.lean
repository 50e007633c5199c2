import EnumCodegen.Code.Render
import EnumCodegen.Proofs.Code.Identifier

/-!
# The lines of generated code come apart

The text of some lines gives them back, cut at its line feeds, if no line holds one of its own. In
quoted text a line feed is escaped, and in identifiers it cannot stand. So the only names that could
break a line of the XML code for a file are those in comments: the name of the file, and the names of
fields and of the messages around them.

## Main definitions

* `Code.AreLines`: lines of which none holds a line feed

## Main results

* `Code.splitOn_text`: lines come back from their text
* `Text.lineFeed_notMem_quoted`: quoted text holds no line feed
* `EnumSchema.areLines_codeLines`: which names may break a line of XML code
-/

namespace EnumCodegen

/-! ## Quoted text and identifiers -/

namespace Text

/-- Hexadecimal digits are digit characters. -/
theorem exists_digitChar_of_mem_hexadecimal {n : Nat} {c : Char} (hc : c ∈ hexadecimal n) :
    ∃ d < 16, c = Nat.digitChar d := by
  unfold hexadecimal at hc
  -- the last digit stands behind those of the quotient
  induction n using Nat.strongRecOn with
  | _ n ih =>
    rcases Nat.lt_or_ge n 16 with hn | hn
    · rw [Nat.toDigits_of_lt_base hn, List.mem_singleton] at hc
      exact ⟨n, hn, hc⟩
    · rw [Nat.toDigits_of_base_le (by decide) hn, List.mem_append, List.mem_singleton] at hc
      rcases hc with hc | hc
      · exact ih (n / 16) (Nat.div_lt_self (by omega) (by decide)) hc
      · exact ⟨n % 16, Nat.mod_lt n (by decide), hc⟩

theorem lineFeed_notMem_hexadecimal (n : Nat) : '\n' ∉ hexadecimal n := by
  intro hmem
  obtain ⟨d, hd, heq⟩ := exists_digitChar_of_mem_hexadecimal hmem
  have hne : ∀ d < 16, '\n' ≠ Nat.digitChar d := by decide
  exact hne d hd heq

/-- A line feed is written as an escape. -/
theorem lineFeed_notMem_escaped (c : Char) : '\n' ∉ escaped c := by
  unfold escaped
  by_cases hfeed : c = '\n'
  · simp [hfeed]
  · have hcode := lineFeed_notMem_hexadecimal c.toNat
    have hself : '\n' ≠ c := fun heq => hfeed heq.symm
    split_ifs <;> simp [hcode, hself]

/-- **Quoted text holds no line feed.** -/
@[simp] theorem lineFeed_notMem_quoted (text : Text) : '\n' ∉ quoted text := by
  simp [quoted, lineFeed_notMem_escaped]

end Text

namespace Identifier

variable {nesting : List Text} {name : Text}

@[simp] theorem lineFeed_notMem_typePath : '\n' ∉ typePath nesting name := by
  intro hmem
  rcases mem_typePath hmem with h | h | h | h <;> exact absurd h (by decide)

@[simp] theorem lineFeed_notMem_flatSnake : '\n' ∉ flatSnake nesting name := by
  intro hmem
  rcases mem_flatSnake hmem with h | h <;> exact absurd h (by decide)

end Identifier

/-! ## Lines and blocks -/

namespace Code

/-- **Proper lines**: none of them holds a line feed. -/
def AreLines (lines : List Text) : Prop :=
  ∀ line ∈ lines, '\n' ∉ line

@[simp] theorem areLines_nil : AreLines [] := by
  simp [AreLines]

@[simp] theorem areLines_cons {line : Text} {lines : List Text} :
    AreLines (line :: lines) ↔ '\n' ∉ line ∧ AreLines lines :=
  List.forall_mem_cons

@[simp] theorem areLines_append {lines lines' : List Text} :
    AreLines (lines ++ lines') ↔ AreLines lines ∧ AreLines lines' :=
  List.forall_mem_append

/-- **Proper lines come back from their text**, cut at its line feeds. The last piece is empty. -/
theorem splitOn_text {lines : List Text} (h : AreLines lines) :
    (text lines).splitOn '\n' = lines ++ [[]] := by
  induction lines with
  | nil => simp
  | cons line lines ih =>
    obtain ⟨hline, hlines⟩ := areLines_cons.mp h
    rw [text_cons, List.splitOn_append_cons_self, List.splitOn_eq_singleton hline, ih hlines]
    rfl

@[simp] theorem lineFeed_mem_indented {line : Text} : '\n' ∈ indented line ↔ '\n' ∈ line := by
  unfold indented
  split <;> simp

/-- **What holds of the lines of a block** is what holds of its head, of the indented body and of the
closing line. -/
theorem forall_mem_block {P : Text → Prop} {head close : Text} {body : List Text} :
    (∀ line ∈ block head body close, P line) ↔
      P (head ++ " \x7b") ∧ (∀ line ∈ body, P (indented line)) ∧ P close := by
  rw [block, List.cons_append, List.forall_mem_cons, List.forall_mem_append, List.forall_mem_map,
    List.forall_mem_singleton]

@[simp] theorem areLines_block {head close : Text} {body : List Text} :
    AreLines (block head body close) ↔ '\n' ∉ head ∧ AreLines body ∧ '\n' ∉ close := by
  rw [AreLines, forall_mem_block]
  simp [AreLines]

@[simp] theorem areLines_moduleBlock {name : Text} {body : List Text} :
    AreLines (moduleBlock name body) ↔ '\n' ∉ name ∧ AreLines body := by
  unfold moduleBlock
  split <;> simp

/-- The lines of functions are proper if the paths and types in them hold no line feed. -/
@[simp] theorem areLines_functionLines {serving typePath reference owned : Text} :
    AreLines (functionLines serving typePath reference owned) ↔
      ('\n' ∉ serving ∧ '\n' ∉ typePath) ∧ '\n' ∉ reference ∧ '\n' ∉ owned := by
  simp [functionLines]
  tauto

end Code

open Code

/-! ## Items -/

/-- The names of a format hold no line feed. -/
theorem TextFormat.lineFeed_notMem (format : TextFormat) :
    '\n' ∉ format.label ∧ '\n' ∉ format.tag ∧ '\n' ∉ format.traitName ∧
      '\n' ∉ format.nameMethod ∧ '\n' ∉ format.ofNameFunction := by
  cases format <;> decide

theorem TraitImpl.areLines_lines {impl : TraitImpl} (hpath : '\n' ∉ impl.typePath) :
    AreLines impl.lines := by
  have harms (arms : List Arm) : AreLines (arms.map armLine) := by
    simp [AreLines, armLine]
  obtain ⟨-, -, htrait, hname, hofName⟩ := impl.format.lineFeed_notMem
  unfold lines
  -- without arms the declared name is given as it is
  by_cases hempty : impl.toWire.isEmpty
  · simp [hempty, harms, htrait, hname, hofName, hpath]
  · simp [hempty, harms, htrait, hname, hofName, hpath]

theorem AdapterModule.areLines_lines {adapters : AdapterModule} (hname : '\n' ∉ adapters.name)
    (hpath : '\n' ∉ adapters.typePath) : AreLines adapters.lines := by
  obtain ⟨hlabel, htag, -⟩ := adapters.format.lineFeed_notMem
  simp [lines, hname, hpath, hlabel, htag]

/-- The lines of a binding hold the names of the field and of the messages around it in a comment,
and the name of its node there and in quotes. -/
theorem FieldBinding.areLines_lines {binding : FieldBinding} (hname : '\n' ∉ binding.name)
    (hadapter : '\n' ∉ binding.adapter) (hnode : '\n' ∉ binding.node.name)
    (hfield : ∀ name ∈ binding.messagePath ++ [binding.field], '\n' ∉ name) :
    AreLines binding.lines := by
  obtain ⟨hpath, hfield⟩ := List.forall_mem_append.mp hfield
  have hmessages : '\n' ∉ ['.'].intercalate binding.messagePath := by
    intro hmem
    rcases Text.mem_intercalate hmem with hmem | ⟨name, hname, hmem⟩
    · exact absurd hmem (by decide)
    · exact hpath name hname hmem
  have hwritten : '\n' ∉ binding.node.kind ∧ '\n' ∉ binding.node.expression := by
    cases binding.node with
    | element name =>
      change '\n' ∉ "element".toList ∧ '\n' ∉ "Element(" ++ name.quoted ++ ")"
      simp
    | «attribute» name =>
      change '\n' ∉ "attribute".toList ∧ '\n' ∉ "Attribute(" ++ name.quoted ++ ")"
      simp
  rw [List.forall_mem_singleton] at hfield
  simp [lines, hname, hadapter, hnode, hmessages, hwritten, hfield]

/-! ## The XML code for a file -/

namespace EnumSchema

variable {file : EnumSchema}

theorem lineFeed_notMem_adapterName (format : TextFormat) (enum : DeclaredEnum) :
    '\n' ∉ adapterName format enum := by
  obtain ⟨-, htag, -⟩ := format.lineFeed_notMem
  simp [adapterName, DeclaredEnum.snakeKey, htag]

theorem areLines_formatItems {format : TextFormat} {enum : DeclaredEnum} {item : Item}
    (hitem : item ∈ formatItems format enum) : AreLines item.lines := by
  have hpath : '\n' ∉ enum.typePath := Identifier.lineFeed_notMem_typePath
  rcases List.mem_pair.mp hitem with rfl | rfl
  · exact TraitImpl.areLines_lines hpath
  · exact AdapterModule.areLines_lines (lineFeed_notMem_adapterName format enum) hpath

theorem areLines_fieldBinding? {enums : List DeclaredEnum} {field : EnumField}
    {binding : FieldBinding} (hbinding : fieldBinding? enums field = some binding)
    (hnode : '\n' ∉ field.node.name)
    (hfield : ∀ name ∈ field.messagePath ++ [field.name], '\n' ∉ name) :
    AreLines binding.lines := by
  obtain ⟨enum, -, rfl⟩ := Option.map_eq_some_iff.mp hbinding
  have hname : '\n' ∉ bindingName field := by
    simp [bindingName, EnumField.snakeKey]
  have hadapter : '\n' ∉ adapterPath enum field.storage := by
    have hmodule := lineFeed_notMem_adapterName .xml enum
    cases field.storage with
    | singular => exact hmodule
    | optional =>
      change '\n' ∉ adapterName .xml enum ++ "::" ++ "option"
      simp [hmodule]
    | repeated =>
      change '\n' ∉ adapterName .xml enum ++ "::" ++ "vec"
      simp [hmodule]
  exact FieldBinding.areLines_lines hname hadapter hnode hfield

/-- **The lines of the XML code for a file** hold no line feed, unless one stands in the name of the
file, or of a listed field, its node or a message around it. -/
theorem areLines_codeLines (hname : '\n' ∉ file.name)
    (hfields : ∀ field ∈ file.fields, '\n' ∉ field.node.name ∧
      ∀ name ∈ field.messagePath ++ [field.name], '\n' ∉ name) :
    AreLines (file.codeLines .xml) := by
  have hheader : AreLines (file.headerLines .xml) := by
    simp [headerLines, hname, Mode.token]
  have hitems : ∀ item ∈ file.items .xml, AreLines item.lines := by
    intro item hitem
    rcases List.mem_append.mp hitem with hitem | hitem
    · obtain ⟨enum, -, hitem⟩ := List.mem_flatMap.mp hitem
      exact areLines_formatItems hitem
    · obtain ⟨binding, hbinding, rfl⟩ := List.mem_map.mp hitem
      obtain ⟨field, hfield, hbinding⟩ := List.mem_filterMap.mp hbinding
      obtain ⟨hnode, hnames⟩ := hfields field hfield
      exact areLines_fieldBinding? hbinding hnode hnames
  refine areLines_append.mpr ⟨hheader, ?_⟩
  intro line hline
  obtain ⟨item, hitem, hline⟩ := List.mem_flatMap.mp hline
  -- an empty line stands before every item
  rcases List.mem_cons.mp hline with rfl | hline
  · exact List.not_mem_nil
  · exact hitems item hitem line hline

end EnumSchema

end EnumCodegen
