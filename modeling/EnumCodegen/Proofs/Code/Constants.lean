import EnumCodegen.Code.Render
import EnumCodegen.Proofs.Code.Identifier
import EnumCodegen.Proofs.Code.Reading
import EnumCodegen.Proofs.Text.RawLiteral

/-!
# Reading constants back

The GraphQL code for a file consists of comments and of constants that hold text. A constant is read
from its keyword to the semicolon behind its literal, and since a literal ends at its own fence, it
reads back whatever text it holds and whatever follows it. A comment ends with its line, so the whole
code reads back where the names that stand in comments hold no line end.

## Main definitions

* `Code.readConstant?`: the constant that stands next
* `Code.readConstants?`: the constants of code that holds nothing else but comments

## Main results

* `TextConstant.readConstant?_lines`: a constant reads back from its written form
* `EnumSchema.readConstants?_codeLines`: the constants for a file read back from its code
* `EnumSchema.rawLiterals_enclose`: raw literals enclose any text, and so the constants for a file
-/

namespace EnumCodegen

namespace Code

open Text (isBlank)

/-! ## The reader -/

/-- **A constant that stands next**: its name and value, and what follows it. -/
def readConstant? (code : Text) : Option ((Text × Text) × Text) := do
  let code ← ("pub const " : Text).isPrefixOf? code
  let name := code.takeWhile (· ≠ ':')
  let code ← (": &str = " : Text).isPrefixOf? (code.dropWhile (· ≠ ':'))
  let (value, code) ← Text.readRawLiteral? code
  let code ← (";" : Text).isPrefixOf? code
  return ((name, value), code)

theorem untilFence?_length {size : Nat} {code text rest : Text}
    (h : Text.untilFence? size code = some (text, rest)) : rest.length < code.length := by
  induction code generalizing text with
  | nil => simp [Text.untilFence?] at h
  | cons c code ih =>
    have hmap (hrest : (Text.untilFence? size code).map (fun (text, after) => (c :: text, after)) =
        some (text, rest)) : rest.length < (c :: code).length := by
      obtain ⟨⟨text', after⟩, hread, heq⟩ := Option.map_eq_some_iff.mp hrest
      obtain ⟨-, rfl⟩ := Prod.mk.inj heq
      exact Nat.lt_succ_of_lt (ih hread)
    rw [Text.untilFence?] at h
    split at h
    · next after hprefix =>
      split at h
      · -- the closing quote and its fence are passed over
        obtain ⟨-, rfl⟩ := Prod.mk.inj (Option.some.inj h)
        rw [← List.isPrefixOf?_eq_some_iff_append_eq.mp hprefix, List.length_cons,
          List.length_append]
        omega
      · exact hmap h
    · exact hmap h

theorem readRawLiteral?_length {code text rest : Text}
    (h : Text.readRawLiteral? code = some (text, rest)) : rest.length < code.length := by
  unfold Text.readRawLiteral? at h
  split at h
  · next code =>
    split at h
    · next content hcontent =>
      have hread := untilFence?_length h
      have hdrop : (code.dropWhile (· = '#')).length ≤ code.length :=
        (List.dropWhile_sublist _).length_le
      rw [hcontent, List.length_cons] at hdrop
      rw [List.length_cons]
      omega
    · simp at h
  · simp at h

theorem readConstant?_length {code rest : Text} {constant : Text × Text}
    (h : readConstant? code = some (constant, rest)) : rest.length < code.length := by
  have hpassed {passage code rest : Text} (h : passage.isPrefixOf? code = some rest) :
      rest.length ≤ code.length := by
    rw [← List.isPrefixOf?_eq_some_iff_append_eq.mp h, List.length_append]
    exact Nat.le_add_left _ _
  simp only [readConstant?, Option.bind_eq_bind, Option.bind_eq_some_iff, Prod.exists] at h
  obtain ⟨code₁, h₁, code₂, h₂, value, code₃, h₃, code₄, h₄, h⟩ := h
  obtain rfl : code₄ = rest := congrArg Prod.snd (Option.some.inj h)
  have := hpassed h₁
  have hdrop : (code₁.dropWhile (· ≠ ':')).length ≤ code₁.length :=
    (List.dropWhile_sublist _).length_le
  have := hpassed h₂
  have := readRawLiteral?_length h₃
  have := hpassed h₄
  omega

/-- **The constants of code** that consists of constants and of comments, which go on to the end of
their line. -/
def readConstants? (code : Text) : Option (List (Text × Text)) :=
  match _hcode : skipBlanks code with
  | [] => some []
  | '/' :: '/' :: rest => readConstants? (rest.dropWhile (· ≠ '\n'))
  | c :: rest =>
    match _hread : readConstant? (c :: rest) with
    | some (constant, after) => (readConstants? after).map (constant :: ·)
    | none => none
termination_by code.length
decreasing_by
  · have hskip : (skipBlanks code).length ≤ code.length := (List.dropWhile_sublist _).length_le
    have hdrop : (rest.dropWhile (· ≠ '\n')).length ≤ rest.length :=
      (List.dropWhile_sublist _).length_le
    rw [_hcode, List.length_cons, List.length_cons] at hskip
    omega
  · have hskip : (skipBlanks code).length ≤ code.length := (List.dropWhile_sublist _).length_le
    have hread := readConstant?_length _hread
    rw [_hcode] at hskip
    omega

/-! ## Passing over blanks and comments -/

theorem readConstants?_nil : readConstants? [] = some [] := by
  rw [readConstants?]
  rfl

theorem readConstants?_congr {code code' : Text} (h : skipBlanks code = skipBlanks code') :
    readConstants? code = readConstants? code' := by
  rw [readConstants?, readConstants?, h]

theorem readConstants?_newline (code : Text) : readConstants? ('\n' :: code) = readConstants? code :=
  readConstants?_congr (skipBlanks_blank rfl code)

/-- A comment goes on to the end of its line. -/
theorem readConstants?_comment {line : Text} (hline : '\n' ∉ line) (code : Text) :
    readConstants? ("//" ++ line ++ '\n' :: code) = readConstants? code := by
  have hdrop : (line ++ '\n' :: code).dropWhile (· ≠ '\n') = '\n' :: code := by
    rw [List.dropWhile_append_of_pos]
    · rfl
    · intro c hc
      exact decide_eq_true fun heq => hline (heq ▸ hc)
  have hskip : skipBlanks ("//" ++ line ++ '\n' :: code) = '/' :: '/' :: (line ++ '\n' :: code) :=
    rfl
  rw [readConstants?, hskip]
  simp only
  rw [hdrop, readConstants?_newline]

/-- A constant that stands next is read first. -/
theorem readConstants?_of_some {code rest : Text} {constant : Text × Text}
    (h : readConstant? code = some (constant, rest)) :
    readConstants? code = (readConstants? rest).map (constant :: ·) := by
  -- a constant starts with its keyword, which is neither a blank nor a comment
  obtain ⟨after, rfl⟩ : ∃ after, code = 'p' :: 'u' :: after := by
    obtain ⟨after, hprefix, -⟩ := Option.bind_eq_some_iff.mp h
    exact ⟨_, (List.isPrefixOf?_eq_some_iff_append_eq.mp hprefix).symm⟩
  have hskip : skipBlanks ('p' :: 'u' :: after) = 'p' :: 'u' :: after := rfl
  rw [readConstants?]
  split
  · next hcode => exact absurd (hskip.symm.trans hcode) (by simp)
  · next hcode => exact absurd (hskip.symm.trans hcode) (by simp)
  · next c rest' _ hcode =>
    rw [hskip] at hcode
    split
    · next constant' rest'' h' =>
      rw [← hcode, h] at h'
      obtain ⟨rfl, rfl⟩ := Prod.mk.inj (Option.some.inj h')
      rfl
    · next h' =>
      rw [← hcode, h] at h'
      exact absurd h' (by simp)

end Code

open Code CharClass

/-! ## Constants -/

/-- The line that declares a constant, behind the comment on it. -/
def TextConstant.declarationLine (constant : TextConstant) : Text :=
  "pub const " ++ constant.name ++ ": &str = " ++ constant.value.rawLiteral ++ ";"

theorem TextConstant.lines_eq (constant : TextConstant) :
    constant.lines = ["/// " ++ constant.doc, constant.declarationLine] := rfl

theorem TextConstant.declarationLine_append (constant : TextConstant) (rest : Text) :
    constant.declarationLine ++ rest = "pub const " ++ (constant.name ++
      (": &str = " ++ (constant.value.rawLiteral ++ (";" ++ rest)))) := by
  unfold declarationLine
  simp only [List.append_assoc]

/-- **A constant reads back from its declaration**, whatever text it holds and whatever follows. -/
theorem TextConstant.readConstant?_declarationLine (constant : TextConstant)
    (hname : ':' ∉ constant.name) (rest : Text) :
    readConstant? (constant.declarationLine ++ rest) =
      some ((constant.name, constant.value), rest) := by
  -- what stands behind the keyword, and what stands behind the name
  let written : Text := ": &str = " ++ (constant.value.rawLiteral ++ (";" ++ rest))
  have hkeyword : ("pub const " : Text).isPrefixOf? (constant.declarationLine ++ rest) =
      some (constant.name ++ written) :=
    List.isPrefixOf?_eq_some_iff_append_eq.mpr (constant.declarationLine_append rest).symm
  have hsolid : ∀ c ∈ constant.name, decide (c ≠ ':') = true :=
    fun c hc => decide_eq_true fun heq => hname (heq ▸ hc)
  have htake : (constant.name ++ written).takeWhile (· ≠ ':') = constant.name := by
    rw [List.takeWhile_append_of_pos hsolid]
    exact List.append_nil constant.name
  have hdrop : (constant.name ++ written).dropWhile (· ≠ ':') = written := by
    rw [List.dropWhile_append_of_pos hsolid]
    rfl
  have htype : (": &str = " : Text).isPrefixOf? written =
      some (constant.value.rawLiteral ++ (";" ++ rest)) :=
    List.isPrefixOf?_eq_some_iff_append_eq.mpr rfl
  have hliteral : Text.readRawLiteral? (constant.value.rawLiteral ++ (";" ++ rest)) =
      some (constant.value, ";" ++ rest) := Text.readRawLiteral?_append _ _
  have hend : (";" : Text).isPrefixOf? (";" ++ rest) = some rest := rfl
  rw [readConstant?, hkeyword]
  simp only [Option.bind_eq_bind, Option.bind_some, htake, hdrop, htype, hliteral, hend]
  rfl

/-- A constant is read, and the comment on it passed over. -/
theorem TextConstant.readConstants?_lines (constant : TextConstant) (hname : ':' ∉ constant.name)
    (hdoc : '\n' ∉ constant.doc) (code : Text) :
    readConstants? (text constant.lines ++ code) =
      (readConstants? code).map ((constant.name, constant.value) :: ·) := by
  have hcomment : '\n' ∉ '/' :: ' ' :: constant.doc := by simpa using hdoc
  have hlines : text constant.lines ++ code = "//" ++ ('/' :: ' ' :: constant.doc) ++
      '\n' :: (constant.declarationLine ++ '\n' :: code) := by
    simp [lines_eq]
  rw [hlines, readConstants?_comment hcomment,
    readConstants?_of_some (constant.readConstant?_declarationLine hname _),
    readConstants?_newline]

/-! ## The names of constants -/

/-- Names in upper case hold no colon. -/
theorem colon_notMem_uppercase {name : Text} (h : ∀ c ∈ name, isNameChar c = true ∨ c = '_') :
    ':' ∉ Text.uppercase name := by
  intro hmem
  obtain ⟨c, hc, hmem⟩ := List.mem_flatMap.mp hmem
  rcases h c hc with hc | rfl
  · exact absurd (isNameChar_uppercased hc hmem) (by decide)
  · exact absurd hmem (by decide)

theorem colon_notMem_declarationConstant (enum : DeclaredEnum) :
    ':' ∉ (declarationConstant enum).name := by
  have hkey : ':' ∉ enum.upperKey :=
    colon_notMem_uppercase fun _ hc => Identifier.mem_flatSnake hc
  rw [declarationConstant, List.mem_append]
  rintro (hmem | hmem)
  · exact hkey hmem
  · exact absurd hmem (by decide)

theorem colon_notMem_schemaConstantName (file : EnumSchema) : ':' ∉ file.schemaConstantName := by
  rw [EnumSchema.schemaConstantName, List.mem_append]
  rintro (hmem | hmem)
  · rcases Text.mem_upperSnake hmem with heq | hmem
    · exact absurd heq (by decide)
    · refine colon_notMem_uppercase (fun c hc => .inl ?_) hmem
      exact isNameChar_of_isAlphanumeric (List.mem_filter.mp hc).2
  · exact absurd hmem (by decide)

/-! ## The code for a file -/

namespace EnumSchema

variable {file : EnumSchema}

/-- **The constants for a file**: one for each enum, and one for all of them. -/
def constants (file : EnumSchema) : List TextConstant :=
  file.enums.map declarationConstant ++ [file.schemaConstant]

theorem colon_notMem_of_mem_constants : ∀ constant ∈ file.constants, ':' ∉ constant.name := by
  rw [constants, List.forall_mem_append, List.forall_mem_singleton]
  constructor
  · intro constant hconstant
    obtain ⟨enum, -, rfl⟩ := List.mem_map.mp hconstant
    exact colon_notMem_declarationConstant enum
  · exact colon_notMem_schemaConstantName file

theorem lineFeed_notMem_of_mem_constants (hname : '\n' ∉ file.name)
    (henums : ∀ enum ∈ file.enums, '\n' ∉ enum.flatTypeName) :
    ∀ constant ∈ file.constants, '\n' ∉ constant.doc := by
  rw [constants, List.forall_mem_append, List.forall_mem_singleton]
  constructor
  · intro constant hconstant
    obtain ⟨enum, henum, rfl⟩ := List.mem_map.mp hconstant
    simpa [declarationConstant] using henums enum henum
  · simpa [schemaConstant] using hname

/-- **The constants for a file read back from its code**, if no name in a comment holds a line
end. -/
theorem readConstants?_codeLines (hname : '\n' ∉ file.name)
    (henums : ∀ enum ∈ file.enums, '\n' ∉ enum.flatTypeName) :
    readConstants? (text (file.codeLines .graphQL)) =
      some (file.constants.map fun constant => (constant.name, constant.value)) := by
  have hitems : file.items .graphQL = file.constants.map .constant := rfl
  have hheader (code : Text) :
      readConstants? (text (file.headerLines .graphQL) ++ code) = readConstants? code := by
    have hsource : '\n' ∉ " source: ".toList ++ file.name := by simpa using hname
    simp only [headerLines, text_cons, text_nil, List.append_assoc, List.cons_append,
      List.nil_append]
    change readConstants? ("//" ++ " @generated by protoc-gen-enumwire. DO NOT EDIT.".toList ++
      '\n' :: ("//" ++ (" source: ".toList ++ file.name) ++
        '\n' :: ("//" ++ " mode: gql".toList ++ '\n' :: code))) = _
    rw [readConstants?_comment (by decide), readConstants?_comment hsource,
      readConstants?_comment (by decide)]
  have hitem (constants : List TextConstant) (hcolon : ∀ constant ∈ constants, ':' ∉ constant.name)
      (hdoc : ∀ constant ∈ constants, '\n' ∉ constant.doc) :
      readConstants? (text ((constants.map Item.constant).flatMap fun item => [] :: item.lines)) =
        some (constants.map fun constant => (constant.name, constant.value)) := by
    -- an empty line stands before every constant
    induction constants with
    | nil => exact readConstants?_nil
    | cons constant constants ih =>
      obtain ⟨hcolon, hcolons⟩ := List.forall_mem_cons.mp hcolon
      obtain ⟨hdoc, hdocs⟩ := List.forall_mem_cons.mp hdoc
      rw [List.map_cons, List.flatMap_cons, List.cons_append, text_cons, List.nil_append,
        readConstants?_newline, text_append]
      change readConstants? (text constant.lines ++ _) = _
      rw [constant.readConstants?_lines hcolon hdoc, ih hcolons hdocs]
      rfl
  rw [codeLines, text_append, hheader, hitems]
  exact hitem file.constants colon_notMem_of_mem_constants
    (lineFeed_notMem_of_mem_constants hname henums)

/-- **Raw literals enclose any text.** The search for a fence ends with the least size, of at least
one, such that no quote of the text is followed by that many signs. The literal with this fence reads
back as the text, and ends where what follows it begins. So do the constants for a file: the items of
its GraphQL code are constants that hold the declarations of its enums, in order, and then these
joined by empty lines, and every constant reads back from its declaration, whatever follows. Where no
name in a comment holds a line end, these are what the whole code reads as. -/
theorem rawLiterals_enclose :
    (∀ text : Text, ∃ size, Text.fenceSearch text 1 = size ∧
      IsLeast {size | 1 ≤ size ∧ ¬ ('"' :: Text.fence size) <:+: text} size ∧
      text.rawLiteral = 'r' :: Text.fence size ++ '"' :: text ++ '"' :: Text.fence size ∧
      ∀ rest, Text.readRawLiteral? (text.rawLiteral ++ rest) = some (text, rest)) ∧
    ∀ file : EnumSchema,
      file.items .graphQL = file.constants.map .constant ∧
      file.constants.map (·.value) = file.enums.map GraphQL.declarationText ++
        [['\n', '\n'].intercalate (file.enums.map GraphQL.declarationText)] ∧
      (∀ constant ∈ file.constants, ∃ comment declaration,
        constant.lines = [comment, declaration] ∧
          ∀ rest, readConstant? (declaration ++ rest) =
            some ((constant.name, constant.value), rest)) ∧
      (file.enums ≠ [] → '\n' ∉ file.name → (∀ enum ∈ file.enums, '\n' ∉ enum.flatTypeName) →
        ∃ code, file.render? .graphQL = some code ∧
          readConstants? code =
            some (file.constants.map fun constant => (constant.name, constant.value))) := by
  constructor
  · intro text
    refine ⟨Text.fenceSize text, ?_, Text.isLeast_fenceSize text, rfl,
      Text.readRawLiteral?_append text⟩
    exact Text.fenceSearch_eq le_rfl (Text.isLeast_fenceSize text).1.1
  · intro file
    refine ⟨rfl, ?_, ?_, ?_⟩
    · rw [constants, List.map_append, List.map_map]
      rfl
    · intro constant hconstant
      refine ⟨_, _, constant.lines_eq, ?_⟩
      exact constant.readConstant?_declarationLine
        (colon_notMem_of_mem_constants constant hconstant)
    · intro hne hname henums
      refine ⟨text (file.codeLines .graphQL), ?_, readConstants?_codeLines hname henums⟩
      have hfile : file.hasEnums = true := by simpa [hasEnums] using hne
      exact if_pos hfile

/-- An enum with a comment that would close a literal with a fence of one sign. -/
def numberedMood : DeclaredEnum where
  name := "Mood"
  fullName := ".Mood"
  nesting := []
  values := [⟨"MOOD_HAPPY", 0, none⟩]
  comment? := some "rule \"#1\" applies".toList

/-- The fence has two signs there, and both constants of the file read back. -/
theorem rawLiterals_enclose_numberedMood :
    Text.fenceSearch (GraphQL.declarationText numberedMood) 1 = 2 ∧
    ∃ code, EnumSchema.render? ⟨"mood.proto", [], none, [numberedMood], []⟩ .graphQL = some code ∧
      readConstants? code = some
        [ ("MOOD_GRAPHQL".toList,
            "\"\"\"rule \"#1\" applies\"\"\"\nenum Mood \x7b\n  HAPPY\n\x7d".toList),
          ("MOOD_GRAPHQL_SCHEMA".toList,
            "\"\"\"rule \"#1\" applies\"\"\"\nenum Mood \x7b\n  HAPPY\n\x7d".toList) ] := by
  obtain ⟨hsearch, hconstants⟩ := rawLiterals_enclose
  constructor
  · obtain ⟨size, hsize, hleast, -⟩ := hsearch (GraphQL.declarationText numberedMood)
    rw [hsize, hleast.unique (Text.isLeast_fenceSize _)]
    decide
  · obtain ⟨-, -, -, hread⟩ := hconstants ⟨"mood.proto", [], none, [numberedMood], []⟩
    obtain ⟨code, hcode, hread⟩ := hread (by simp) (by decide) (by decide)
    refine ⟨code, hcode, hread.trans ?_⟩
    decide

end EnumSchema

end EnumCodegen
