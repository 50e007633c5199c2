import EnumCodegen.Proofs.Code.Names

/-!
# Which names of items are identifiers

An identifier starts with a letter or an underscore and goes on with letters, digits and underscores.
The names of adapters, of bindings and of the constants for single enums are made of names of the
schema, and are identifiers if these are ASCII words that start with a letter. The constant for all
enums of a file is named after the file, and the name of a file may be any text. Its letters and numbers
begin the name of the constant, and nothing is put before them.

## Main definitions

* `Alphabet`: the characters of identifiers
* `Identifier.IsLegal`: identifiers that are no keywords
* `Identifier.IsPlain`: ASCII words that start with a letter

## Main results

* `Identifier.isPlain_flatSnake`, `Identifier.isPlain_flatUpperSnake`: flat names of plain names
* `EnumSchema.isLegal_schemaConstantName_iff`: when the constant for a file has a legal name
* `FileDescriptor.ofDescriptor_isLegal`: which names of the items for a file are legal
-/

namespace EnumCodegen

open CharClass

/-! ## Letters and digits -/

namespace CharClass

variable {c : Char}

/-- A letter is no digit. -/
theorem isDigit_eq_false_of_isAlpha (h : c.isAlpha = true) : c.isDigit = false := by
  have hascii : isAscii c = true := isAscii_of_isAlphanum (Bool.or_eq_true_iff.mpr (.inl h))
  revert h
  apply of_isAscii _ hascii
  decide +kernel

theorem isAlphanum_toUpper (h : c.isAlphanum = true) : c.toUpper.isAlphanum = true :=
  (isAlphanum_cases (isAscii_of_isAlphanum h) (by simp [isNameChar, h])).1

end CharClass

/-! ## First characters -/

namespace Text

variable {name : Text}

theorem uppercased_ne_nil (c : Char) : uppercased c ≠ [] := by
  unfold uppercased
  split
  · simp
  · exact mapped_ne_nil (by decide) c

/-- **The `UPPER_SNAKE` form begins** with the first letter or number of the name. -/
theorem head?_upperSnake (name : Text) :
    (upperSnake name).head? = (uppercase (name.filter isAlphanumeric)).head? := by
  rw [upperSnake, head?_intercalate, flatten_map_uppercase_words]
  intro part hpart
  obtain ⟨word, hword, rfl⟩ := List.mem_map.mp hpart
  -- no character vanishes in upper case, so neither does a word
  obtain ⟨c, word, rfl⟩ := List.exists_cons_of_ne_nil (ne_nil_of_mem_words hword)
  simp [uppercase, uppercased_ne_nil]

/-- **The `snake` form begins** with the first letter or number of an ASCII name. -/
theorem head?_snake_ascii (hname : ∀ c ∈ name, isAscii c = true) :
    (snake name).head? = (name.find? isAlphanumeric).map Char.toLower := by
  -- where no sigma ends a word, lower case goes character by character
  have hwords : ((words name).map lowercase).flatten = (words name).flatten.map Char.toLower := by
    rw [List.map_flatten]
    congr 1
    apply List.map_congr_left
    intro word hword
    exact lowercase_ascii fun c hc => hname c (mem_of_mem_words hword hc).1
  rw [snake, head?_intercalate ['_'] fun part hpart => (lowercase_words name part hpart).1, hwords,
    flatten_words, List.head?_map, List.head?_filter]

end Text

/-! ## Identifiers

Which characters beyond ASCII are letters depends on the version of Unicode, and nothing here depends
on it. -/

/-- **The letters beyond ASCII**, and the marks that may only stand behind a letter. -/
structure Alphabet where
  isLetter : Char → Bool
  isMark : Char → Bool

namespace Alphabet

variable (alphabet : Alphabet) {c : Char}

/-- The characters with which identifiers start. -/
def isStart (c : Char) : Bool :=
  if isAscii c then c.isAlpha || c = '_' else alphabet.isLetter c

/-- The characters of identifiers. -/
def isContinue (c : Char) : Bool :=
  if isAscii c then c.isAlphanum || c = '_' else alphabet.isLetter c || alphabet.isMark c

theorem isStart_ascii (h : isAscii c = true) : alphabet.isStart c = (c.isAlpha || c = '_') :=
  if_pos h

theorem isContinue_of_isAlphanum (h : c.isAlphanum = true ∨ c = '_') :
    alphabet.isContinue c = true := by
  have hascii : isAscii c = true := by
    rcases h with h | rfl
    · exact isAscii_of_isAlphanum h
    · rfl
  rw [isContinue, if_pos hascii, Bool.or_eq_true, decide_eq_true_eq]
  exact h

/-- A letter in upper case starts an identifier, and a digit does not. -/
theorem isStart_toUpper (h : c.isAlphanum = true) : alphabet.isStart c.toUpper = !c.isDigit := by
  have hupper : c.toUpper.isAlphanum = true := isAlphanum_toUpper h
  -- an underscore may start an identifier too, but no case change leads to one
  have hne : c.toUpper ≠ '_' := by
    intro heq
    rw [heq] at hupper
    exact absurd hupper (by decide)
  rw [alphabet.isStart_ascii (isAscii_of_isAlphanum hupper),
    (isAlpha_changeCase (isAscii_of_isAlphanum h)).2, decide_eq_false hne, Bool.or_false]
  cases halpha : c.isAlpha with
  | true => rw [isDigit_eq_false_of_isAlpha halpha, Bool.not_false]
  | false =>
    rw [Char.isAlphanum, halpha, Bool.false_or] at h
    rw [h, Bool.not_true]

/-- The alphabet without characters beyond ASCII. -/
def ascii : Alphabet where
  isLetter _ := false
  isMark _ := false

end Alphabet

namespace Identifier

variable {alphabet : Alphabet} {name : Text} {nesting : List Text}

/-- **Legal names**: identifiers, and no keyword. An underscore alone is no identifier. -/
structure IsLegal (alphabet : Alphabet) (name : Text) : Prop where
  start : ∃ c ∈ name.head?, alphabet.isStart c = true
  characters : ∀ c ∈ name, alphabet.isContinue c = true
  ne_underscore : name ≠ ['_']
  notMem_keywords : name ∉ keywords ∧ name ∉ pathKeywords

/-- **Plain names**: ASCII letters, digits and underscores, with a letter in front. -/
def IsPlain (name : Text) : Prop :=
  (∃ c ∈ name.head?, c.isAlpha = true) ∧ ∀ c ∈ name, c.isAlphanum = true ∨ c = '_'

instance (name : Text) : Decidable (IsPlain name) :=
  decidable_of_iff
    (name.head?.any Char.isAlpha = true ∧ name.all (fun c => c.isAlphanum || c = '_') = true)
    (by simp [IsPlain, Option.any_eq_true])

/-- No keyword has an underscore. -/
theorem notMem_keywords_of_underscore (h : '_' ∈ name) :
    name ∉ keywords ∧ name ∉ pathKeywords := by
  have hkeywords : ∀ word ∈ keywords, '_' ∉ word := by decide
  have hpathKeywords : ∀ word ∈ pathKeywords, '_' ∉ word := by decide
  exact ⟨fun hname => hkeywords name hname h, fun hname => hpathKeywords name hname h⟩

namespace IsPlain

theorem isAscii (h : IsPlain name) : ∀ c ∈ name, CharClass.isAscii c = true := by
  intro c hc
  rcases h.2 c hc with hc | rfl
  · exact isAscii_of_isAlphanum hc
  · rfl

/-- **Plain names with an underscore are legal.** -/
theorem isLegal (h : IsPlain name) (hunderscore : '_' ∈ name) : IsLegal alphabet name := by
  obtain ⟨c, hc, halpha⟩ := h.1
  refine ⟨⟨c, hc, ?_⟩, fun d hd => alphabet.isContinue_of_isAlphanum (h.2 d hd), ?_,
    notMem_keywords_of_underscore hunderscore⟩
  · rw [alphabet.isStart_ascii (h.isAscii c (List.mem_of_mem_head? hc)), halpha, Bool.true_or]
  · rintro rfl
    obtain rfl := Option.some.inj hc
    exact absurd halpha (by decide)

/-- A plain name may go on. -/
theorem append (h : IsPlain name) {ending : Text}
    (hending : ∀ c ∈ ending, c.isAlphanum = true ∨ c = '_') : IsPlain (name ++ ending) := by
  obtain ⟨c, hc, halpha⟩ := h.1
  constructor
  · refine ⟨c, ?_, halpha⟩
    rw [List.head?_append, hc]
    rfl
  · exact List.forall_mem_append.mpr ⟨h.2, hending⟩

/-- **The `snake` form** of a plain name is plain. -/
theorem snake (h : IsPlain name) : IsPlain (Text.snake name) := by
  obtain ⟨c, hc, halpha⟩ := h.1
  constructor
  · -- the first character of a plain name is its first letter
    obtain ⟨rest, rfl⟩ := List.head?_eq_some_iff.mp hc
    have hascii := h.isAscii c List.mem_cons_self
    have hletter : isAlphanumeric c = true := by
      rw [isAlphanumeric_ascii hascii, Char.isAlphanum, halpha, Bool.true_or]
    refine ⟨c.toLower, ?_, by rw [(isAlpha_changeCase hascii).1, halpha]⟩
    rw [Text.head?_snake_ascii h.isAscii, List.find?_cons_of_pos hletter]
    rfl
  · intro d hd
    have hascii := (Text.mem_snake_ascii h.isAscii hd).1
    apply (Text.mem_snake hd).imp_left
    intro hname
    simpa [isNameChar, hascii] using hname

/-- **The upper case** of a plain name is plain. -/
theorem uppercase (h : IsPlain name) : IsPlain (Text.uppercase name) := by
  obtain ⟨c, hc, halpha⟩ := h.1
  rw [Text.uppercase_ascii h.isAscii]
  constructor
  · have hascii := h.isAscii c (List.mem_of_mem_head? hc)
    refine ⟨c.toUpper, ?_, by rw [(isAlpha_changeCase hascii).2, halpha]⟩
    rw [List.head?_map, hc]
    rfl
  · intro d hd
    obtain ⟨e, he, rfl⟩ := List.mem_map.mp hd
    rcases h.2 e he with halphanum | rfl
    · exact .inl (isAlphanum_toUpper halphanum)
    · exact .inr rfl

end IsPlain

/-- **Flat names** of plain names are plain. -/
theorem isPlain_flatSnake (h : ∀ level ∈ nesting ++ [name], IsPlain level) :
    IsPlain (flatSnake nesting name) := by
  have hparts : ∀ part ∈ (nesting ++ [name]).map Text.snake, IsPlain part := by
    intro part hpart
    obtain ⟨level, hlevel, rfl⟩ := List.mem_map.mp hpart
    exact (h level hlevel).snake
  rw [flatSnake]
  constructor
  · -- the outermost level begins the flat name
    obtain ⟨first, rest, hfirst⟩ := List.exists_cons_of_ne_nil
      (show (nesting ++ [name]).map Text.snake ≠ [] by simp)
    obtain ⟨c, hc, halpha⟩ := (hparts first (hfirst ▸ List.mem_cons_self)).1
    refine ⟨c, ?_, halpha⟩
    rw [hfirst, Text.intercalate_cons, List.head?_append, hc]
    rfl
  · intro c hc
    rcases Text.mem_intercalate hc with hc | ⟨part, hpart, hc⟩
    · exact .inr (by simpa [levelSeparator] using hc)
    · exact (hparts part hpart).2 c hc

/-- **Flat names in upper case** of plain names are plain. -/
theorem isPlain_flatUpperSnake (h : ∀ level ∈ nesting ++ [name], IsPlain level) :
    IsPlain (flatUpperSnake nesting name) :=
  (isPlain_flatSnake h).uppercase

end Identifier

/-! ## The names of items -/

namespace EnumSchema

variable {alphabet : Alphabet}

/-- **The constant for a file has a legal name** if and only if the letters and numbers in the stem of
the file's name, in upper case, belong to identifiers, and the first of them may start one. -/
theorem isLegal_schemaConstantName_iff (file : EnumSchema) :
    Identifier.IsLegal alphabet file.schemaConstantName ↔
      (∀ c ∈ (Text.uppercase ((Path.stem file.name).filter isAlphanumeric)).head?,
        alphabet.isStart c = true) ∧
      ∀ c ∈ Text.uppercase ((Path.stem file.name).filter isAlphanumeric),
        alphabet.isContinue c = true := by
  have hhead := Text.head?_upperSnake (Path.stem file.name)
  set letters := Text.uppercase ((Path.stem file.name).filter isAlphanumeric)
  rw [schemaConstantName]
  constructor
  · intro h
    constructor
    · intro c hc
      obtain ⟨d, hd, hstart⟩ := h.start
      rw [List.head?_append, hhead, hc] at hd
      obtain rfl := Option.some.inj hd
      exact hstart
    · intro c hc
      exact h.characters c (List.mem_append_left _ (Text.mem_upperSnake_of_mem hc))
  · rintro ⟨hstart, hcharacters⟩
    refine ⟨?_, ?_, ?_, Identifier.notMem_keywords_of_underscore (by simp)⟩
    · rw [List.head?_append, hhead]
      -- without letters or numbers the name starts with an underscore
      cases hc : letters.head? with
      | none => exact ⟨'_', rfl, rfl⟩
      | some c => exact ⟨c, rfl, hstart c hc⟩
    · rw [List.forall_mem_append]
      constructor
      · intro c hc
        rcases Text.mem_upperSnake hc with rfl | hc
        · exact alphabet.isContinue_of_isAlphanum (.inr rfl)
        · exact hcharacters c hc
      · have hending : ∀ c ∈ "_GRAPHQL_SCHEMA".toList, c.isAlphanum = true ∨ c = '_' := by simp
        exact fun c hc => alphabet.isContinue_of_isAlphanum (hending c hc)
    · -- the ending alone is longer than an underscore
      intro h
      simpa using congrArg List.length h

/-- **The constant for a file with an ASCII stem** has a legal name if and only if the first letter or
number of the stem is no digit. -/
theorem isLegal_schemaConstantName_ascii_iff (file : EnumSchema)
    (hstem : ∀ c ∈ Path.stem file.name, isAscii c = true) :
    Identifier.IsLegal alphabet file.schemaConstantName ↔
      ∀ c ∈ (Path.stem file.name).find? isAlphanumeric, c.isDigit = false := by
  -- on ASCII the letters and numbers are the ASCII letters and digits
  have halphanum (c : Char) (hc : c ∈ (Path.stem file.name).filter isAlphanumeric) :
      c.isAlphanum = true := by
    obtain ⟨hmem, hc⟩ := List.mem_filter.mp hc
    rwa [isAlphanumeric_ascii (hstem c hmem)] at hc
  rw [isLegal_schemaConstantName_iff,
    Text.uppercase_ascii fun c hc => isAscii_of_isAlphanum (halphanum c hc), ← List.head?_filter]
  constructor
  · rintro ⟨hstart, -⟩ c hc
    have hupper := hstart c.toUpper (by rw [List.head?_map, hc]; rfl)
    rw [alphabet.isStart_toUpper (halphanum c (List.mem_of_mem_head? hc))] at hupper
    exact Bool.not_eq_true' _ |>.mp hupper
  · intro h
    constructor
    · intro d hd
      rw [List.head?_map] at hd
      obtain ⟨c, hc, rfl⟩ := Option.map_eq_some_iff.mp hd
      rw [alphabet.isStart_toUpper (halphanum c (List.mem_of_mem_head? hc)), h c hc, Bool.not_false]
    · intro d hd
      obtain ⟨c, hc, rfl⟩ := List.mem_map.mp hd
      exact alphabet.isContinue_of_isAlphanum (.inl (isAlphanum_toUpper (halphanum c hc)))

end EnumSchema

namespace FileDescriptor

variable {alphabet : Alphabet} {file : FileDescriptor}

/-- **The names of all items but the constant for the file** are legal: they are made of plain names,
and end in what a plain name may go on with. -/
theorem isLegal_of_mem_itemNames (htypes : ∀ name ∈ file.typeNames, Identifier.IsPlain name)
    (hfields : ∀ name ∈ file.fieldNames, Identifier.IsPlain name) {kind : ItemKind}
    (hkind : kind ≠ .schemaConstant) {name : Text}
    (hname : name ∈ (EnumSchema.ofDescriptor file).itemNames kind) :
    Identifier.IsLegal alphabet name := by
  -- a legal name is a plain one and an ending with an underscore
  have hend {front ending : Text} (hfront : Identifier.IsPlain front)
      (hending : ∀ c ∈ ending, c.isAlphanum = true ∨ c = '_') (hunderscore : '_' ∈ ending) :
      Identifier.IsLegal alphabet (front ++ ending) :=
    (hfront.append hending).isLegal (List.mem_append_right _ hunderscore)
  have hlevels (enum : DeclaredEnum) (henum : enum ∈ (EnumSchema.ofDescriptor file).enums) :
      ∀ level ∈ enum.nesting ++ [enum.name], Identifier.IsPlain level :=
    fun level hlevel => htypes level (mem_typeNames henum level hlevel)
  cases kind with
  | adapter format =>
    obtain ⟨enum, henum, rfl⟩ := List.mem_map.mp hname
    rw [adapterName, List.append_assoc]
    apply hend (Identifier.isPlain_flatSnake (hlevels enum henum))
    · cases format <;> simp [TextFormat.tag]
    · simp
  | binding =>
    obtain ⟨field, hfield, rfl⟩ := List.mem_map.mp hname
    obtain ⟨hpath, hself⟩ := mem_fieldNames hfield
    apply hend (Identifier.isPlain_flatSnake ?_) (by simp) (by simp)
    rw [List.forall_mem_append, List.forall_mem_singleton]
    exact ⟨fun level hlevel => htypes level (hpath level hlevel), hfields field.name hself⟩
  | enumConstant =>
    obtain ⟨enum, henum, rfl⟩ := List.mem_map.mp hname
    exact hend (Identifier.isPlain_flatUpperSnake (hlevels enum henum)) (by simp) (by simp)
  | schemaConstant => exact absurd rfl hkind

/-- **Which names of the items for a file are legal.** If the names of messages, enums and fields are
plain, every item but the constant for the file has a legal name, whatever the name of the file is. The
constant for the file has a legal name if and only if the letters and numbers in the stem of the file's
name, in upper case, belong to identifiers and the first of them may start one; for an ASCII stem, if
and only if the first of them is no digit. -/
theorem ofDescriptor_isLegal (alphabet : Alphabet) (file : FileDescriptor)
    (htypes : ∀ name ∈ file.typeNames, Identifier.IsPlain name)
    (hfields : ∀ name ∈ file.fieldNames, Identifier.IsPlain name) :
    (∀ mode, ∀ item ∈ (EnumSchema.ofDescriptor file).items mode, ∀ name ∈ item.name?,
      name ≠ (EnumSchema.ofDescriptor file).schemaConstantName →
        Identifier.IsLegal alphabet name) ∧
    (Identifier.IsLegal alphabet (EnumSchema.ofDescriptor file).schemaConstantName ↔
      (∀ c ∈ (Text.uppercase ((Path.stem file.name).filter isAlphanumeric)).head?,
        alphabet.isStart c = true) ∧
      ∀ c ∈ Text.uppercase ((Path.stem file.name).filter isAlphanumeric),
        alphabet.isContinue c = true) ∧
    ((∀ c ∈ Path.stem file.name, isAscii c = true) →
      (Identifier.IsLegal alphabet (EnumSchema.ofDescriptor file).schemaConstantName ↔
        ∀ c ∈ (Path.stem file.name).find? isAlphanumeric, c.isDigit = false)) := by
  refine ⟨?_, (EnumSchema.ofDescriptor file).isLegal_schemaConstantName_iff,
    (EnumSchema.ofDescriptor file).isLegal_schemaConstantName_ascii_iff⟩
  intro mode item hitem name hname hne
  -- the names of the items are those of the kinds of items for the mode
  have hmem := List.mem_filterMap.mpr ⟨item, hitem, hname⟩
  rw [filterMap_name?_items] at hmem
  obtain ⟨kind, -, hmem⟩ := List.mem_flatMap.mp hmem
  refine isLegal_of_mem_itemNames htypes hfields ?_ hmem
  rintro rfl
  exact hne (List.mem_singleton.mp hmem)

/-- A file with one enum, in a message with a field for it. -/
def moodFile (name : Text) : FileDescriptor where
  name? := name
  messages :=
    [{ name? := "Person".toList
       fields := [{ name? := "mood".toList, type? := some 14, typeName? := ".Person.Mood".toList }]
       enums := [{ name? := "Mood".toList, values := [{ name? := "MOOD_HAPPY".toList }] }] }]

/-- **A file's name may start with a digit**, and then so does the name of its constant. All other
names are legal. -/
theorem ofDescriptor_isLegal_2fa :
    (EnumSchema.ofDescriptor (moodFile "2fa.proto")).schemaConstantName = "2FA_GRAPHQL_SCHEMA" ∧
      ¬Identifier.IsLegal .ascii "2FA_GRAPHQL_SCHEMA" ∧
      ∀ mode, ∀ item ∈ (EnumSchema.ofDescriptor (moodFile "2fa.proto")).items mode,
        ∀ name ∈ item.name?, name ≠ "2FA_GRAPHQL_SCHEMA" → Identifier.IsLegal .ascii name := by
  have htypes : ∀ name ∈ (moodFile "2fa.proto").typeNames, Identifier.IsPlain name := by decide
  have hfields : ∀ name ∈ (moodFile "2fa.proto").fieldNames, Identifier.IsPlain name := by decide
  have hname : (EnumSchema.ofDescriptor (moodFile "2fa.proto")).schemaConstantName =
      "2FA_GRAPHQL_SCHEMA" := by decide
  have hstem : (Path.stem (moodFile "2fa.proto").name).all isAscii = true := by decide
  obtain ⟨hitems, -, hascii⟩ := ofDescriptor_isLegal .ascii (moodFile "2fa.proto") htypes hfields
  rw [hname] at hitems hascii
  refine ⟨hname, ?_, hitems⟩
  rw [hascii (List.all_eq_true.mp hstem)]
  intro hdigit
  exact absurd (hdigit '2' rfl) (by decide)

end FileDescriptor

end EnumCodegen
