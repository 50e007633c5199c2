import EnumCodegen.Code.Render
import EnumCodegen.Proofs.GraphQL.Declaration
import EnumCodegen.Proofs.Schema.TypeNames

/-!
# The types that a schema defines

The declarations of all enums of a file stand in one constant, an empty line between them. Its tokens
are those of the declarations, and the types that they define are named after the enums, in order.

The flat name of an enum joins names by an underscore, which may occur in these names too. So the flat
names of two enums agree as soon as their names cut at every underscore do: the enum `Inner` in the
message `Outer` and the enum `Outer_Inner` define the same type. Without underscores in the names of
the file, enums with different full names define different types.

## Main definitions

* `GraphQL.definedTypes`, `GraphQL.definedTypes?`: the types that tokens, and documents, define
* `DeclaredEnum.segments`: the names of an enum, cut at underscores

## Main results

* `GraphQL.definedTypes?_declarations`: declarations define the types of their enums
* `DeclaredEnum.flatTypeName_eq_iff`: when two flat names agree
* `FileDescriptor.ofDescriptor_flatTypeNames`: the flat names of the enums of a file
-/

namespace EnumCodegen

/-! ## Definitions among tokens

The members of a declaration are names and strings, so no opening brace stands behind one of them, and
none of them is taken for a definition, even if its name is that of the keyword. -/

namespace GraphQL

open Code (text)

/-- The type that tokens begin to define: the name between the keyword and the brace that opens the
values. -/
def definedType? : List Token → Option Text
  | .name keyword :: .name type :: .punctuator brace :: _ =>
    if keyword = "enum" ∧ brace = ['\x7b'] then some type else none
  | _ => none

/-- **The types that tokens define**, in order. -/
def definedTypes (tokens : List Token) : List Text :=
  tokens.tails.filterMap definedType?

variable {tokens rest : List Token}

theorem definedTypes_cons_none {token : Token} (h : definedType? (token :: tokens) = none) :
    definedTypes (token :: tokens) = definedTypes tokens :=
  List.filterMap_cons_none h

theorem definedTypes_cons_some {token : Token} {type : Text}
    (h : definedType? (token :: tokens) = some type) :
    definedTypes (token :: tokens) = type :: definedTypes tokens :=
  List.filterMap_cons_some h

theorem definedTypes_description (comment? : Option Text) (tokens : List Token) :
    definedTypes (descriptionTokens comment? ++ tokens) = definedTypes tokens := by
  cases comment? with
  | none => rfl
  | some comment => exact definedTypes_cons_none rfl

/-- Two names that no opening brace follows begin no definition. -/
theorem definedType?_names {first second : Text} (h : tokens.head? ≠ some (.punctuator ['\x7b'])) :
    definedType? (.name first :: .name second :: tokens) = none := by
  cases tokens with
  | nil => rfl
  | cons token tokens =>
    cases token with
    | punctuator brace =>
      have hbrace : brace ≠ ['\x7b'] := by
        rintro rfl
        exact h rfl
      exact if_neg fun hopen => hbrace hopen.2
    | _ => rfl

/-- The name of a member begins no definition. -/
theorem definedType?_member (name : Text) (names : WireNames) (values : List DeclaredValue)
    (rest : List Token) :
    definedType? (.name name :: (memberTokens names values ++ .punctuator ['\x7d'] :: rest)) =
      none := by
  -- the next token is a string, a name or the closing brace
  have hhead (values : List DeclaredValue) :
      (memberTokens names values ++ .punctuator ['\x7d'] :: rest).head? ≠
        some (.punctuator ['\x7b']) := by
    cases values with
    | nil => simp [memberTokens]
    | cons value values =>
      rw [memberTokens_cons_append]
      cases value.comment? <;> simp [descriptionTokens]
  cases values with
  | nil => rfl
  | cons value values =>
    rw [memberTokens_cons_append]
    cases value.comment? with
    | none => exact definedType?_names (hhead values)
    | some comment => rfl

/-- The members of a declaration define nothing. -/
theorem definedTypes_members (names : WireNames) (values : List DeclaredValue) (rest : List Token) :
    definedTypes (memberTokens names values ++ .punctuator ['\x7d'] :: rest) =
      definedTypes rest := by
  induction values with
  | nil => exact definedTypes_cons_none rfl
  | cons value values ih =>
    rw [memberTokens_cons_append, definedTypes_description,
      definedTypes_cons_none (definedType?_member _ names values rest), ih]

/-- **A declaration defines one type.** -/
theorem definedTypes_declaration (comment? : Option Text) (type : Text) (names : WireNames)
    (values : List DeclaredValue) (rest : List Token) :
    definedTypes (descriptionTokens comment? ++
      ([.name "enum", .name type, .punctuator ['\x7b']] ++
        (memberTokens names values ++ .punctuator ['\x7d'] :: rest))) =
      type :: definedTypes rest := by
  simp only [List.cons_append, List.nil_append]
  rw [definedTypes_description, definedTypes_cons_some rfl, definedTypes_cons_none rfl,
    definedTypes_cons_none rfl, definedTypes_members]

/-! ## Definitions in a document

A comment need not read back for its description to be one string: all that matters is where the
string ends. -/

/-- **The types that a document defines**, if it can be read. -/
def definedTypes? (document : Text) : Option (List Text) :=
  (lex? document).map definedTypes

variable {comment blanks : Text} {names : WireNames} {values : List DeclaredValue}
  {enum : DeclaredEnum}

/-- A description is one string if the closing quotes may stand behind it. -/
theorem lex?_description (hcomment : '\n' ∈ comment ∨ Closable comment)
    (hblanks : ∀ c ∈ blanks, isBlank c = true) :
    ∃ value, ∀ after, lex? (text (descriptionLines blanks comment) ++ after) =
      (lex? after).map (.string value :: ·) := by
  by_cases hfeed : '\n' ∈ comment
  · have hne : Text.lines comment ≠ [] := Text.lines_ne_nil (List.ne_nil_of_mem hfeed)
    refine ⟨blockValue (indented blanks (Text.lines comment)), fun after => ?_⟩
    rw [descriptionLines_append_lines hfeed hblanks]
    exact lex?_described_closable hblanks (closable_indented hblanks hne)
  · refine ⟨blockValue comment, fun after => ?_⟩
    rw [descriptionLines_append_line hfeed]
    exact lex?_described_closable hblanks (hcomment.resolve_left hfeed)

/-- The same for an optional comment. -/
theorem lex?_commentLines {comment? : Option Text}
    (hcomment : ∀ comment ∈ comment?, '\n' ∈ comment ∨ Closable comment)
    (hblanks : ∀ c ∈ blanks, isBlank c = true) :
    ∃ value?, ∀ after, lex? (text (commentLines blanks comment?) ++ after) =
      (lex? after).map (descriptionTokens value? ++ ·) := by
  cases comment? with
  | none => exact ⟨none, fun after => by simp [commentLines, descriptionTokens]⟩
  | some comment =>
    obtain ⟨value, hlex⟩ := lex?_description (hcomment comment rfl) hblanks
    exact ⟨some value, hlex⟩

/-- The members of a declaration are read under their names. -/
theorem lex?_members (hnames : ∀ value ∈ values, isName (memberName names value) = true)
    (hcomments : ∀ value ∈ values, ∀ comment ∈ value.comment?,
      '\n' ∈ comment ∨ Closable comment) :
    ∃ read, ∀ after,
      lex? (text (values.flatMap (memberLines names)) ++ after) =
        (lex? after).map (memberTokens names read ++ ·) := by
  have hblanks : ∀ c ∈ "  ".toList, isBlank c = true := by simp [isBlank]
  induction values with
  | nil => exact ⟨[], fun after => by simp [memberTokens]⟩
  | cons value values ih =>
    obtain ⟨hname, hnames⟩ := List.forall_mem_cons.mp hnames
    obtain ⟨hcomment, hcomments⟩ := List.forall_mem_cons.mp hcomments
    obtain ⟨value?, hdescription⟩ := lex?_commentLines hcomment hblanks
    obtain ⟨read, hread⟩ := ih hnames hcomments
    -- the value with the comment that is read has the same name
    refine ⟨{ value with comment? := value? } :: read, fun after => ?_⟩
    have htokens : (memberTokens names ({ value with comment? := value? } :: read) ++ ·) =
        (descriptionTokens value? ++ ·) ∘ (Token.name (memberName names value) :: ·) ∘
          (memberTokens names read ++ ·) :=
      funext fun tokens => memberTokens_cons_append names { value with comment? := value? } read tokens
    rw [memberLines_append, hdescription, lex?_blanks hblanks, lex?_name hname rfl,
      lex?_ignored rfl, hread, htokens, Option.map_map, Option.map_map, Function.comp_assoc]

/-- **A declaration defines the type** with the flat name of its enum, whatever follows. -/
theorem definedTypes?_declarationText_append (hname : isName enum.flatTypeName = true)
    (hvalues : ∀ value ∈ enum.values, isName value.name = true)
    (hcomments : ∀ comment ∈ commentsOf enum, '\n' ∈ comment ∨ Closable comment) (after : Text) :
    definedTypes? (declarationText enum ++ after) =
      (definedTypes? after).map (enum.flatTypeName :: ·) := by
  obtain ⟨hself, hmembers⟩ := forall_mem_commentsOf.mp hcomments
  obtain ⟨value?, hdescription⟩ := @lex?_commentLines [] _ hself (by simp)
  obtain ⟨read, hread⟩ :=
    lex?_members (fun value hvalue => (isName_memberName hvalues hvalue).2) hmembers
  rw [definedTypes?, declarationText_append, hdescription, lex?_head hname, hread,
    lex?_punctuator rfl, definedTypes?]
  simp only [Option.map_map]
  apply congrArg (Option.map · (lex? after))
  funext tokens
  exact definedTypes_declaration value? enum.flatTypeName enum.wireNames read tokens

/-- **Declarations define the types** with the flat names of their enums. -/
theorem definedTypes?_declarations {enums : List DeclaredEnum}
    (hnames : ∀ enum ∈ enums, isName enum.flatTypeName = true)
    (hvalues : ∀ enum ∈ enums, ∀ value ∈ enum.values, isName value.name = true)
    (hcomments : ∀ enum ∈ enums, ∀ comment ∈ commentsOf enum,
      '\n' ∈ comment ∨ Closable comment) :
    definedTypes? (['\n', '\n'].intercalate (enums.map declarationText)) =
      some (enums.map (·.flatTypeName)) := by
  have hend : definedTypes? [] = some [] := by
    rw [definedTypes?, lex?_nil]
    rfl
  have hstep {enum : DeclaredEnum} (henum : enum ∈ enums) (after : Text) :
      definedTypes? (declarationText enum ++ after) =
        (definedTypes? after).map (enum.flatTypeName :: ·) :=
    definedTypes?_declarationText_append (hnames enum henum) (hvalues enum henum)
      (hcomments enum henum) after
  -- every declaration but the first stands behind an empty line
  have hlater (later : List DeclaredEnum) (hmem : ∀ enum ∈ later, enum ∈ enums) :
      definedTypes? ((later.map declarationText).flatMap (['\n', '\n'] ++ ·)) =
        some (later.map (·.flatTypeName)) := by
    induction later with
    | nil => exact hend
    | cons enum later ih =>
      obtain ⟨henum, hlater⟩ := List.forall_mem_cons.mp hmem
      have hgap (text : Text) : definedTypes? (['\n', '\n'] ++ text) = definedTypes? text := by
        rw [definedTypes?, List.cons_append, List.singleton_append, lex?_ignored rfl,
          lex?_ignored rfl, definedTypes?]
      rw [List.map_cons, List.flatMap_cons, List.append_assoc, hgap, hstep henum, ih hlater]
      rfl
  cases enums with
  | nil => exact hend
  | cons enum later =>
    rw [List.map_cons, Text.intercalate_cons, hstep List.mem_cons_self,
      hlater later fun _ => List.mem_cons_of_mem enum]
    rfl

end GraphQL

/-! ## Names cut at underscores -/

namespace DeclaredEnum

variable {enum enum' : DeclaredEnum}

/-- **The segments of an enum**: the names of the messages around it and its own, cut at every
underscore. -/
def segments (enum : DeclaredEnum) : List Text :=
  (enum.nesting ++ [enum.name]).flatMap (·.splitOn '_')

theorem splitOn_intercalate_underscore {parts : List Text} (h : parts ≠ []) :
    (['_'].intercalate parts).splitOn '_' = parts.flatMap (·.splitOn '_') := by
  induction parts with
  | nil => exact absurd rfl h
  | cons part parts ih =>
    cases parts with
    | nil => rw [List.intercalate_singleton, List.flatMap_singleton]
    | cons next parts =>
      rw [List.intercalate_cons_cons, List.append_assoc, List.singleton_append,
        List.splitOn_append_cons_self, ih (by simp), ← List.flatMap_cons]

theorem splitOn_flatTypeName (enum : DeclaredEnum) :
    enum.flatTypeName.splitOn '_' = enum.segments :=
  splitOn_intercalate_underscore (by simp)

/-- **Two flat names agree** if and only if the enums have the same segments. -/
theorem flatTypeName_eq_iff :
    enum.flatTypeName = enum'.flatTypeName ↔ enum.segments = enum'.segments := by
  rw [← splitOn_flatTypeName, ← splitOn_flatTypeName]
  constructor
  · exact congrArg (List.splitOn '_')
  · intro h
    have hjoined := congrArg ['_'].intercalate h
    rwa [List.intercalate_splitOn, List.intercalate_splitOn] at hjoined

/-- Names without underscores are the segments. -/
theorem segments_of_notMem (h : ∀ name ∈ enum.nesting ++ [enum.name], '_' ∉ name) :
    enum.segments = enum.nesting ++ [enum.name] := by
  rw [← splitOn_flatTypeName]
  exact List.splitOn_intercalate '_' h (by simp)

end DeclaredEnum

/-! ## The enums of a file -/

namespace FileDescriptor

variable {file : FileDescriptor} {enum enum' : DeclaredEnum}

/-- The names of an enum and of the messages around it determine its full name in the file. -/
theorem fullName_eq_of_names_eq (henum : enum ∈ (EnumSchema.ofDescriptor file).enums)
    (henum' : enum' ∈ (EnumSchema.ofDescriptor file).enums)
    (h : enum.nesting ++ [enum.name] = enum'.nesting ++ [enum'.name]) :
    enum.fullName = enum'.fullName := by
  obtain ⟨node, -, rfl⟩ := List.mem_map.mp henum
  obtain ⟨node', -, rfl⟩ := List.mem_map.mp henum'
  obtain ⟨hnesting, hname⟩ := List.append_inj' h rfl
  exact congrArg₂ (fullName file.package) hnesting (List.singleton_inj.mp hname)

/-- **Without underscores** in the names of the file, its enums have different flat names if they have
different full names. -/
theorem nodup_flatTypeName (hfull : ((EnumSchema.ofDescriptor file).enums.map (·.fullName)).Nodup)
    (hnames : ∀ name ∈ file.typeNames, '_' ∉ name) :
    ((EnumSchema.ofDescriptor file).enums.map (·.flatTypeName)).Nodup := by
  -- without underscores the segments are the names, and these determine the full name
  have hsegments (enum : DeclaredEnum) (henum : enum ∈ (EnumSchema.ofDescriptor file).enums) :
      enum.segments = enum.nesting ++ [enum.name] :=
    DeclaredEnum.segments_of_notMem fun name hname => hnames name (mem_typeNames henum name hname)
  rw [List.Nodup, List.pairwise_map] at hfull ⊢
  refine hfull.imp_of_mem ?_
  intro enum enum' henum henum' hne heq
  have hcut := DeclaredEnum.flatTypeName_eq_iff.mp heq
  rw [hsegments enum henum, hsegments enum' henum'] at hcut
  exact hne (fullName_eq_of_names_eq henum henum' hcut)

/-- **The types that the constant for a file defines** are those of its enums, if all names are
identifiers and all descriptions are strings. -/
theorem definedTypes?_schemaConstant (hnames : ∀ name ∈ file.typeNames, GraphQL.isName name = true)
    (henums : ∀ enum ∈ (EnumSchema.ofDescriptor file).enums,
      (∀ value ∈ enum.values, GraphQL.isName value.name = true) ∧
        ∀ comment ∈ GraphQL.commentsOf enum, '\n' ∈ comment ∨ GraphQL.Closable comment) :
    GraphQL.definedTypes? (EnumSchema.ofDescriptor file).schemaConstant.value =
      some ((EnumSchema.ofDescriptor file).enums.map (·.flatTypeName)) := by
  refine GraphQL.definedTypes?_declarations ?_ (fun enum henum => (henums enum henum).1)
    fun enum henum => (henums enum henum).2
  intro enum henum
  have hparts : ∀ name ∈ enum.nesting ++ [enum.name], GraphQL.isName name = true :=
    fun name hname => hnames name (mem_typeNames henum name hname)
  obtain ⟨hnesting, hname⟩ := List.forall_mem_append.mp hparts
  exact GraphQL.isName_flatTypeName hnesting (hname enum.name List.mem_cons_self)

/-- **The flat names of the enums of a file.** In every file two flat names agree if and only if the
enums have the same segments. So the flat names differ if the full names do and no name of the file
has an underscore. Where messages, enums and values have identifiers as names, and the closing quotes
may stand behind every comment of one line, the constant for the file defines one type with the flat
name of each enum, and no others. -/
theorem ofDescriptor_flatTypeNames (file : FileDescriptor) :
    (∀ enum ∈ (EnumSchema.ofDescriptor file).enums, ∀ enum' ∈ (EnumSchema.ofDescriptor file).enums,
      enum.flatTypeName = enum'.flatTypeName ↔ enum.segments = enum'.segments) ∧
    (((EnumSchema.ofDescriptor file).enums.map (·.fullName)).Nodup →
      (∀ name ∈ file.typeNames, '_' ∉ name) →
        ((EnumSchema.ofDescriptor file).enums.map (·.flatTypeName)).Nodup) ∧
    ((∀ name ∈ file.typeNames, GraphQL.isName name = true) →
      (∀ enum ∈ (EnumSchema.ofDescriptor file).enums,
        (∀ value ∈ enum.values, GraphQL.isName value.name = true) ∧
          ∀ comment ∈ GraphQL.commentsOf enum, '\n' ∈ comment ∨ GraphQL.Closable comment) →
      GraphQL.definedTypes? (EnumSchema.ofDescriptor file).schemaConstant.value =
        some ((EnumSchema.ofDescriptor file).enums.map (·.flatTypeName))) := by
  refine ⟨?_, nodup_flatTypeName, definedTypes?_schemaConstant⟩
  intro enum _ enum' _
  exact DeclaredEnum.flatTypeName_eq_iff

/-- A file with an enum, and with the enum `Inner` in the message `Outer`. -/
def besideInner (name : Text) : FileDescriptor where
  enums := [{ name? := name, values := [{ name? := "FIRST".toList }] }]
  messages :=
    [{ name? := "Outer".toList
       enums := [{ name? := "Inner".toList, values := [{ name? := "SECOND".toList }] }] }]

/-- Beside the enum `Kind`, the constant for the file defines two types. -/
theorem ofDescriptor_flatTypeNames_kind :
    ((EnumSchema.ofDescriptor (besideInner "Kind")).enums.map (·.flatTypeName)).Nodup ∧
      GraphQL.definedTypes? (EnumSchema.ofDescriptor (besideInner "Kind")).schemaConstant.value =
        some ["Kind".toList, "Outer_Inner".toList] := by
  obtain ⟨-, hnodup, hdefined⟩ := ofDescriptor_flatTypeNames (besideInner "Kind")
  exact ⟨hnodup (by decide) (by decide), hdefined (by decide) (by decide)⟩

/-- **Full names that differ do not make the flat names differ**: beside the enum `Outer_Inner`, the
constant for the file defines one type twice. -/
theorem flatTypeNames_outer_inner :
    (∀ name ∈ (besideInner "Outer_Inner").typeNames, GraphQL.isName name = true) ∧
      ((EnumSchema.ofDescriptor (besideInner "Outer_Inner")).enums.map (·.fullName)).Nodup ∧
      ¬ ((EnumSchema.ofDescriptor (besideInner "Outer_Inner")).enums.map (·.flatTypeName)).Nodup ∧
      GraphQL.definedTypes?
          (EnumSchema.ofDescriptor (besideInner "Outer_Inner")).schemaConstant.value =
        some ["Outer_Inner".toList, "Outer_Inner".toList] := by
  have hnames : ∀ name ∈ (besideInner "Outer_Inner").typeNames, GraphQL.isName name = true := by
    decide
  exact ⟨hnames, by decide, by decide, definedTypes?_schemaConstant hnames (by decide)⟩

end FileDescriptor

end EnumCodegen
