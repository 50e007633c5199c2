import EnumCodegen.Code.Item
import EnumCodegen.Proofs.GraphQL.BlockString
import EnumCodegen.Proofs.GraphQL.BlockValue
import EnumCodegen.Proofs.GraphQL.Name

/-!
# The tokens of a declaration

An enum of which all names are identifiers is declared by a description, its flat name and, between
braces, a description and the wire name for each of its values. A comment of several lines always
reads back from its description. A comment of one line stands right before the closing quotes, and
reads back exactly when these may stand behind it: a comment that ends in quotes of its own, or in a
backslash, makes something else of the declaration.

## Main definitions

* `GraphQL.commentsOf`: the comments of an enum
* `GraphQL.declarationTokens`: the tokens that a declaration is meant to have

## Main results

* `lex?_description_iff`: when a description reads back
* `lex?_members_iff`: when the members of a declaration read back
* `lex?_declarationText_iff`: when a declaration reads back
-/

namespace EnumCodegen.GraphQL

open Code (text)

/-- **The comments of an enum**: that on itself and those on its values. -/
def commentsOf (enum : DeclaredEnum) : List Text :=
  enum.comment?.toList ++ enum.values.filterMap (·.comment?)

/-- The token of an optional description. -/
def descriptionTokens (comment? : Option Text) : List Token :=
  (comment?.map .string).toList

/-- The tokens of the values of an enum: for each a description, if any, and its wire name. -/
def memberTokens (names : WireNames) (values : List DeclaredValue) : List Token :=
  values.flatMap fun value =>
    descriptionTokens value.comment? ++ [.name (memberName names value)]

/-- **The tokens that a declaration is meant to have.** -/
def declarationTokens (enum : DeclaredEnum) : List Token :=
  descriptionTokens enum.comment? ++
    [.name "enum", .name enum.flatTypeName, .punctuator ['\x7b']] ++
    memberTokens enum.wireNames enum.values ++ [.punctuator ['\x7d']]

variable {comment blanks after : Text} {lines : List Text} {tokens : List Token}

theorem memberTokens_cons_append (names : WireNames) (value : DeclaredValue)
    (values : List DeclaredValue) (tokens : List Token) :
    memberTokens names (value :: values) ++ tokens =
      descriptionTokens value.comment? ++
        .name (memberName names value) :: (memberTokens names values ++ tokens) := by
  simp [memberTokens]

theorem declarationTokens_append (enum : DeclaredEnum) (tokens : List Token) :
    declarationTokens enum ++ tokens =
      descriptionTokens enum.comment? ++
        ([.name "enum", .name enum.flatTypeName, .punctuator ['\x7b']] ++
          (memberTokens enum.wireNames enum.values ++ .punctuator ['\x7d'] :: tokens)) := by
  simp [declarationTokens]

theorem map_cons_eq_some_iff {token : Token} {rest? : Option (List Token)} :
    rest?.map (token :: ·) = some (token :: tokens) ↔ rest? = some tokens := by
  simp [Option.map_eq_some_iff]

theorem map_append_eq_some_iff {front : List Token} {rest? : Option (List Token)} :
    rest?.map (front ++ ·) = some (front ++ tokens) ↔ rest? = some tokens := by
  simp [Option.map_eq_some_iff]

/-! ## Descriptions

Both forms of a description are the text of a block string between triple quotes, on a line behind
the same blanks. They differ in the text: the comment itself, or its lines on lines of their own. -/

/-- The description that holds a text, and what follows its line. -/
def described (blanks text after : Text) : Text :=
  blanks ++ tripleQuote ++ (escapeBlock text ++ (tripleQuote ++ '\n' :: after))

theorem lex?_blanks (hblanks : ∀ c ∈ blanks, isBlank c = true) (text : Text) :
    lex? (blanks ++ text) = lex? text :=
  lex?_ignored_append (fun c hc => by simp [isIgnored, hblanks c hc]) text

theorem lex?_described (hblanks : ∀ c ∈ blanks, isBlank c = true) (text after : Text) :
    lex? (described blanks text after) =
      (readBlock? (escapeBlock text ++ (tripleQuote ++ '\n' :: after))).bind fun read =>
        (lex? read.2).map (.string (blockValue read.1) :: ·) := by
  rw [described, List.append_assoc, lex?_blanks hblanks]
  exact lex?_block _

/-- A description behind whose text the closing quotes may stand. -/
theorem lex?_described_closable {text : Text} (hblanks : ∀ c ∈ blanks, isBlank c = true)
    (hclosable : Closable text) :
    lex? (described blanks text after) = (lex? after).map (.string (blockValue text) :: ·) := by
  rw [lex?_described hblanks, readBlock?_closed hclosable, Option.bind_some, lex?_ignored rfl]

/-! ### Several lines -/

theorem escapeBlock_indented (hblanks : ∀ c ∈ blanks, isBlank c = true) (lines : List Text) :
    escapeBlock (indented blanks lines) =
      '\n' :: ((lines.flatMap fun line => blanks ++ escapeBlock line ++ ['\n']) ++ blanks) := by
  have hquote : '"' ∉ blanks := fun hmem => absurd (hblanks _ hmem) (by decide)
  have hself : escapeBlock blanks = blanks := by
    simpa [escapeBlock] using escapeBlock_append_of_notMem hquote []
  rw [indented, escapeBlock_cons (by decide), escapeBlock_lines hquote, hself]

/-- The closing quotes may stand behind lines of their own. -/
theorem closable_indented (hblanks : ∀ c ∈ blanks, isBlank c = true) (hne : lines ≠ []) :
    Closable (indented blanks lines) := by
  rcases List.eq_nil_or_concat' blanks with rfl | ⟨front, c, rfl⟩
  · -- the line feed of the last line stands before the quotes
    obtain ⟨front, last, rfl⟩ := (List.eq_nil_or_concat' lines).resolve_left hne
    have hend : (indented [] (front ++ [last])).getLast? = some '\n' :=
      List.getLast?_eq_some_iff.mpr
        ⟨'\n' :: (front.flatMap (· ++ ['\n']) ++ last), by simp [indented]⟩
    exact closable_of_getLast? hend (by decide) (by decide)
  · have hc : isBlank c = true := hblanks c (by simp)
    have hend : (indented (front ++ [c]) lines).getLast? = some c :=
      List.getLast?_eq_some_iff.mpr
        ⟨'\n' :: ((lines.flatMap fun line => front ++ [c] ++ line ++ ['\n']) ++ front),
          by simp [indented]⟩
    refine closable_of_getLast? hend ?_ ?_
    · rintro rfl
      exact absurd hc (by decide)
    · rintro rfl
      exact absurd hc (by decide)

/-- The description of a comment of several lines. -/
theorem descriptionLines_append_lines (hfeed : '\n' ∈ comment)
    (hblanks : ∀ c ∈ blanks, isBlank c = true) (after : Text) :
    text (descriptionLines blanks comment) ++ after =
      described blanks (indented blanks (Text.lines comment)) after := by
  have hfeed' : '\n' ∈ escapeBlock comment := (mem_escapeBlock_iff (by decide)).mpr hfeed
  rw [described, escapeBlock_indented hblanks, descriptionLines]
  simp [hfeed', lines_escapeBlock, text, List.flatMap_map]

/-- **A comment of several lines reads back** from its description. -/
theorem lex?_description_lines (hlines : NormalLines lines)
    (hcomment : comment = ['\n'].intercalate lines) (hreturn : '\r' ∉ comment)
    (hfeed : '\n' ∈ comment) (hblanks : ∀ c ∈ blanks, isBlank c = true) :
    lex? (text (descriptionLines blanks comment) ++ after) =
      (lex? after).map (.string comment :: ·) := by
  have hreturn' : ∀ line ∈ lines, '\r' ∉ line := by
    intro line hline hmem
    exact hreturn (hcomment ▸ Text.mem_intercalate_of_mem hline hmem)
  have hlines' : Text.lines comment = lines := by
    rw [hcomment]
    exact Text.lines_intercalate hlines.lineFeed_notMem hreturn' hlines.ne_nil hlines.getLast_ne_nil
  rw [descriptionLines_append_lines hfeed hblanks, hlines',
    lex?_described_closable hblanks (closable_indented hblanks hlines.ne_nil),
    blockValue_indented hblanks hlines hreturn', ← hcomment]

/-! ### One line

If the closing quotes may not stand behind the comment, a document may still be read from what the
declaration spells, with the quotes of later descriptions. But its first string is not the comment:
it is shorter, or has a quote where the comment has a backslash. -/

/-- A comment of one line is no blank line. -/
theorem isBlankLine_comment (hlines : NormalLines lines)
    (hcomment : comment = ['\n'].intercalate lines) (hfeed : '\n' ∉ comment) :
    isBlankLine comment = false := by
  obtain ⟨first, rest, rfl⟩ := List.exists_cons_of_ne_nil hlines.ne_nil
  cases rest with
  | nil =>
    rw [hcomment, List.intercalate_singleton]
    exact isBlankLine_eq_false (hlines.trimmed first List.mem_cons_self) hlines.head_ne_nil
  | cons second rest =>
    -- a second line would stand behind a line feed
    rw [hcomment, List.intercalate_cons_cons] at hfeed
    simp at hfeed

/-- **A line behind which the closing quotes may not stand** is not the value of its string. -/
theorem blockValue_ne_of_not_closable {line written rest : Text}
    (hends : ∀ c ∈ line, isLineEnd c = false) (hsolid : isBlankLine line = false)
    (hclosable : ¬ Closable line)
    (hread : readBlock? (escapeBlock line ++ (tripleQuote ++ after)) = some (written, rest)) :
    blockValue written ≠ line := by
  intro hvalue
  rcases readBlock?_of_not_closable hclosable hread with
    ⟨tail, hne, hshort⟩ | ⟨front, tail, hlong, hbegin⟩
  · -- the string ends too early, so its value is shorter than the line
    have hwritten : ∀ c ∈ written, isLineEnd c = false :=
      fun c hc => hends c (hshort ▸ List.mem_append_left _ hc)
    rw [blockValue_line hwritten] at hvalue
    split at hvalue
    · rw [← hvalue] at hsolid
      exact absurd hsolid (by decide)
    · rw [← hvalue] at hshort
      exact hne (List.self_eq_append_right.mp hshort)
  · -- a quote stands in the string where the line has the backslash
    have hfront : ∀ c ∈ front ++ ['"'], isLineEnd c = false := by
      intro c hc
      rcases List.mem_append.mp hc with hc | hc
      · exact hends c (hlong ▸ List.mem_append_left _ hc)
      · rw [List.mem_singleton.mp hc]
        decide
    have hvalue' := prefix_blockValue hfront (by simp [isBlankLine, isBlank]) hbegin
    rw [hvalue, hlong, List.prefix_append_right_inj, List.cons_prefix_cons] at hvalue'
    exact absurd hvalue'.1 (by decide)

/-- The description of a comment of one line. -/
theorem descriptionLines_append_line (hfeed : '\n' ∉ comment) (blanks after : Text) :
    text (descriptionLines blanks comment) ++ after =
      described blanks comment after := by
  have hfeed' : '\n' ∉ escapeBlock comment := mt (mem_escapeBlock_iff (by decide)).mp hfeed
  simp [descriptionLines, described, hfeed']

/-- **A comment of one line reads back** from its description if and only if the closing quotes may
stand behind it. -/
theorem lex?_description_line (hlines : NormalLines lines)
    (hcomment : comment = ['\n'].intercalate lines) (hreturn : '\r' ∉ comment)
    (hfeed : '\n' ∉ comment) (hblanks : ∀ c ∈ blanks, isBlank c = true) :
    lex? (text (descriptionLines blanks comment) ++ after) =
        some (.string comment :: tokens) ↔
      Closable comment ∧ lex? after = some tokens := by
  have hends : ∀ c ∈ comment, isLineEnd c = false := fun c => isLineEnd_eq_false hfeed hreturn
  have hsolid := isBlankLine_comment hlines hcomment hfeed
  rw [descriptionLines_append_line hfeed]
  by_cases hclosable : Closable comment
  · rw [lex?_described_closable hblanks hclosable, blockValue_line hends, hsolid,
      if_neg Bool.false_ne_true, map_cons_eq_some_iff]
    exact (and_iff_right hclosable).symm
  · refine iff_of_false ?_ fun h => hclosable h.1
    rw [lex?_described hblanks]
    intro hlex
    obtain ⟨⟨written, rest⟩, hread, hlex⟩ := Option.bind_eq_some_iff.mp hlex
    obtain ⟨more, -, htokens⟩ := Option.map_eq_some_iff.mp hlex
    exact blockValue_ne_of_not_closable hends hsolid hclosable hread
      (Token.string.inj (List.cons.inj htokens).1)

/-! ### Comments -/

/-- **When a description reads back.** -/
theorem lex?_description_iff (hcomment : ∃ raw, cleanComment? raw = some comment)
    (hreturn : '\r' ∉ comment) (hblanks : ∀ c ∈ blanks, isBlank c = true) :
    lex? (text (descriptionLines blanks comment) ++ after) =
        some (.string comment :: tokens) ↔
      ('\n' ∈ comment ∨ Closable comment) ∧ lex? after = some tokens := by
  obtain ⟨raw, hraw⟩ := hcomment
  obtain ⟨lines, hlines, hcomment⟩ := exists_normalLines hraw
  by_cases hfeed : '\n' ∈ comment
  · rw [lex?_description_lines hlines hcomment hreturn hfeed hblanks, map_cons_eq_some_iff]
    simp [hfeed]
  · rw [lex?_description_line hlines hcomment hreturn hfeed hblanks]
    simp [hfeed]

/-- The same for an optional comment. -/
theorem lex?_commentLines_iff {comment? : Option Text}
    (hcomment : ∀ comment ∈ comment?, (∃ raw, cleanComment? raw = some comment) ∧ '\r' ∉ comment)
    (hblanks : ∀ c ∈ blanks, isBlank c = true) :
    lex? (text (commentLines blanks comment?) ++ after) =
        some (descriptionTokens comment? ++ tokens) ↔
      (∀ comment ∈ comment?, '\n' ∈ comment ∨ Closable comment) ∧ lex? after = some tokens := by
  cases comment? with
  | none => simp [commentLines, descriptionTokens]
  | some comment =>
    obtain ⟨hclean, hreturn⟩ := hcomment comment rfl
    simp only [commentLines, descriptionTokens, Option.map_some, Option.toList_some,
      List.singleton_append, Option.mem_def, Option.some.injEq, forall_eq']
    exact lex?_description_iff hclean hreturn hblanks

/-! ## Declarations

Every description is followed by a line end and every name by a blank, a line end or a brace, so the
tokens of a declaration are those of its pieces, whatever follows. -/

/-- The lines of a member of a declaration. -/
def memberLines (names : WireNames) (value : DeclaredValue) : List Text :=
  commentLines "  " value.comment? ++ ["  " ++ memberName names value]

theorem memberLines_append (names : WireNames) (value : DeclaredValue) (values : List DeclaredValue)
    (after : Text) :
    text ((value :: values).flatMap (memberLines names)) ++ after =
      text (commentLines "  " value.comment?) ++ ("  ".toList ++ (memberName names value ++
        '\n' :: (text (values.flatMap (memberLines names)) ++ after))) := by
  simp [memberLines]

/-- Joined lines are the text of all but the last, and then the last. -/
theorem intercalate_lines (lines : List Text) (last : Text) :
    ['\n'].intercalate (lines ++ [last]) = text lines ++ last :=
  Text.intercalate_concat ['\n'] lines last

/-- A declaration is a description, a head line, its members and a closing brace. -/
theorem declarationText_append (enum : DeclaredEnum) (after : Text) :
    declarationText enum ++ after =
      text (commentLines [] enum.comment?) ++
        ("enum ".toList ++ enum.flatTypeName ++ " \x7b\n".toList ++
          (text (enum.values.flatMap (memberLines enum.wireNames)) ++ '\x7d' :: after)) := by
  have hlines : declarationLines enum =
      commentLines [] enum.comment? ++ ["enum ".toList ++ enum.flatTypeName ++ " \x7b"] ++
        enum.values.flatMap (memberLines enum.wireNames) ++ [['\x7d']] := rfl
  rw [declarationText, hlines, intercalate_lines]
  simp

/-- **When the members of a declaration read back.** -/
theorem lex?_members_iff {names : WireNames} {values : List DeclaredValue}
    (hnames : ∀ value ∈ values, isName (memberName names value) = true)
    (hcomments : ∀ value ∈ values, ∀ comment ∈ value.comment?,
      (∃ raw, cleanComment? raw = some comment) ∧ '\r' ∉ comment) :
    lex? (text (values.flatMap (memberLines names)) ++ after) =
        some (memberTokens names values ++ tokens) ↔
      (∀ value ∈ values, ∀ comment ∈ value.comment?, '\n' ∈ comment ∨ Closable comment) ∧
        lex? after = some tokens := by
  have hblanks : ∀ c ∈ "  ".toList, isBlank c = true := by simp [isBlank]
  induction values with
  | nil => simp [memberTokens]
  | cons value values ih =>
    obtain ⟨hname, hnames⟩ := List.forall_mem_cons.mp hnames
    obtain ⟨hcomment, hcomments⟩ := List.forall_mem_cons.mp hcomments
    rw [memberLines_append, memberTokens_cons_append, lex?_commentLines_iff hcomment hblanks,
      lex?_blanks hblanks, lex?_name hname rfl, lex?_ignored rfl, map_cons_eq_some_iff,
      List.forall_mem_cons, and_assoc]
    exact and_congr_right fun _ => ih hnames hcomments

/-- The line between the description and the members. -/
theorem lex?_head {name : Text} (hname : isName name = true) (after : Text) :
    lex? ("enum ".toList ++ name ++ " \x7b\n".toList ++ after) =
      (lex? after).map ([.name "enum", .name name, .punctuator ['\x7b']] ++ ·) := by
  have htext : "enum ".toList ++ name ++ " \x7b\n".toList ++ after =
      "enum".toList ++ ' ' :: (name ++ ' ' :: '\x7b' :: '\n' :: after) := by
    simp
  rw [htext, lex?_name rfl rfl, lex?_ignored rfl, lex?_name hname rfl, lex?_ignored rfl,
    lex?_punctuator rfl, lex?_ignored rfl, Option.map_map, Option.map_map]
  rfl

theorem forall_mem_commentsOf {enum : DeclaredEnum} {p : Text → Prop} :
    (∀ comment ∈ commentsOf enum, p comment) ↔
      (∀ comment ∈ enum.comment?, p comment) ∧
        ∀ value ∈ enum.values, ∀ comment ∈ value.comment?, p comment := by
  simp only [commentsOf, List.mem_append, List.mem_filterMap, Option.mem_toList, Option.mem_def]
  constructor
  · intro h
    exact ⟨fun comment hcomment => h comment (.inl hcomment),
      fun value hvalue comment hcomment => h comment (.inr ⟨value, hvalue, hcomment⟩)⟩
  · rintro ⟨hself, hvalues⟩ comment (hcomment | ⟨value, hvalue, hcomment⟩)
    · exact hself comment hcomment
    · exact hvalues value hvalue comment hcomment

/-- **When a declaration reads back.** Take an enum of which all names are identifiers and all
comments are in normal form and without carriage returns. Its declaration has the tokens it is meant
to have, every description with the comment as its value, if and only if every comment of one line
ends in no backslash and in a number of quotes that three divides. -/
theorem lex?_declarationText_iff (enum : DeclaredEnum)
    (hnames : ∀ name ∈ enum.nesting ++ enum.name :: enum.values.map (·.name), isName name = true)
    (hcomments : ∀ comment ∈ commentsOf enum,
      (∃ raw, cleanComment? raw = some comment) ∧ '\r' ∉ comment) :
    (∀ value ∈ enum.values,
      enum.wireNames.wireName? value.name = some (memberName enum.wireNames value)) ∧
    (lex? (declarationText enum) = some (declarationTokens enum) ↔
      ∀ comment ∈ commentsOf enum, '\n' ∈ comment ∨ Closable comment) := by
  obtain ⟨hnesting, hnames⟩ := List.forall_mem_append.mp hnames
  obtain ⟨hname, hvalues⟩ := List.forall_mem_cons.mp hnames
  have hvalues' : ∀ value ∈ enum.values, isName value.name = true :=
    fun value hvalue => hvalues _ (List.mem_map_of_mem hvalue)
  refine ⟨fun value hvalue => (isName_memberName hvalues' hvalue).1, ?_⟩
  obtain ⟨hself, hmembers⟩ := forall_mem_commentsOf.mp hcomments
  have htext := declarationText_append enum []
  have htokens := declarationTokens_append enum []
  have hclose : lex? ['\x7d'] = some [.punctuator ['\x7d']] := by
    rw [lex?_punctuator rfl, lex?_nil]
    rfl
  rw [List.append_nil] at htext htokens
  rw [htext, htokens, lex?_commentLines_iff hself (by simp),
    lex?_head (isName_flatTypeName hnesting hname), forall_mem_commentsOf, map_append_eq_some_iff]
  refine and_congr_right fun _ => ?_
  rw [lex?_members_iff (fun value hvalue => (isName_memberName hvalues' hvalue).2) hmembers]
  exact and_iff_left hclose

/-- An enum with a comment. -/
def commentedMood (comment : Text) : DeclaredEnum where
  name := "Mood"
  fullName := ".Mood"
  nesting := []
  values := [⟨"MOOD_HAPPY", 0, none⟩]
  comment? := comment

theorem clean_commentedMood {raw : Text} (hclean : cleanComment? raw = some comment)
    (hreturn : '\r' ∉ comment) :
    ∀ comment' ∈ commentsOf (commentedMood comment),
      (∃ raw, cleanComment? raw = some comment') ∧ '\r' ∉ comment' := by
  intro comment' hcomment
  obtain rfl := List.mem_singleton.mp hcomment
  exact ⟨⟨raw, hclean⟩, hreturn⟩

/-- A comment that ends in a quote does not read back. With a full stop behind the quote it does. -/
theorem lex?_declarationText_iff_quoted :
    lex? (declarationText (commentedMood "say \"hi\"")) ≠
        some (declarationTokens (commentedMood "say \"hi\"")) ∧
      lex? (declarationText (commentedMood "say \"hi\".")) =
        some (declarationTokens (commentedMood "say \"hi\".")) := by
  constructor
  · have hcomments := @clean_commentedMood "say \"hi\"" " say \"hi\"\n" (by decide) (by decide)
    intro hlex
    exact absurd ((lex?_declarationText_iff _ (by decide) hcomments).2.mp hlex) (by decide)
  · have hcomments := @clean_commentedMood "say \"hi\"." " say \"hi\".\n" (by decide) (by decide)
    exact (lex?_declarationText_iff _ (by decide) hcomments).2.mpr (by decide)

end EnumCodegen.GraphQL
