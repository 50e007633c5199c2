import EnumCodegen.Proofs.Code.Identifier
import EnumCodegen.Proofs.Text.Snake

/-!
# The path of a type tells what it names

The segments of a path are modules and a type, escaped where they would be keywords. An escape adds a
number sign or an underscore at the end, and no name in a case style has either. So an escaped name
is told from every other, and gives back the name it was made from. No segment holds a colon, so a
path comes apart into its segments, even where some of them are empty.

## Main definitions

* `Identifier.languageKeywords`: the words that are no identifiers
* `Identifier.segments`: the segments of a path
* `Identifier.unescaped`: the name that a segment was made from

## Main results

* `Identifier.escaped_notMem_languageKeywords`: no escaped name is a keyword
* `Identifier.unescaped_escaped`: escaping is undone
* `Identifier.segments_typePath`: the path of a type comes apart
* `Identifier.typePath_faithful`: when two paths of types agree, and that no segment is a keyword
-/

namespace EnumCodegen.Identifier

open CharClass

variable {ident name : Text} {nesting nesting' : List Text} {enum enum' : Text}

/-! ## Keywords -/

/-- **The keywords of the language** that is generated: those in use, in any of its editions, and
those set aside for later ones. Words that are keywords in some places only are identifiers in a
path. -/
def languageKeywords : List Text :=
  List.map String.toList
   ["as", "async", "await", "break", "const", "continue", "crate", "dyn", "else", "enum", "extern",
    "false", "fn", "for", "if", "impl", "in", "let", "loop", "match", "mod", "move", "mut", "pub",
    "ref", "return", "self", "Self", "static", "struct", "super", "trait", "true", "type", "unsafe",
    "use", "where", "while"] ++
  List.map String.toList
   ["abstract", "become", "box", "do", "final", "gen", "macro", "override", "priv", "try", "typeof",
    "unsized", "virtual", "yield"]

/-- Every keyword of the language is escaped in one of the two ways. -/
theorem mem_keywords_of_mem_languageKeywords :
    ∀ word ∈ languageKeywords, word ∈ pathKeywords ∨ word ∈ keywords := by
  decide

/-- A keyword has neither of the characters that an escape adds. -/
theorem notMem_of_mem_languageKeywords : ∀ word ∈ languageKeywords, '_' ∉ word ∧ '#' ∉ word := by
  decide

/-- **No escaped name is a keyword**, whatever the name is. -/
theorem escaped_notMem_languageKeywords (ident : Text) : escaped ident ∉ languageKeywords := by
  intro hmem
  obtain ⟨hunderscore, hsign⟩ := notMem_of_mem_languageKeywords _ hmem
  unfold escaped at hmem hunderscore hsign
  split at hmem
  · next hpath =>
    rw [if_pos hpath] at hunderscore
    exact hunderscore (List.mem_append_right ident List.mem_cons_self)
  · next hpath =>
    split at hmem
    · next hkeyword =>
      rw [if_neg hpath, if_pos hkeyword] at hsign
      exact hsign (List.mem_cons_of_mem 'r' List.mem_cons_self)
    · next hkeyword =>
      -- a name that stays as it is would be a keyword that the tables lack
      rcases mem_keywords_of_mem_languageKeywords ident hmem with h | h
      · exact hpath h
      · exact hkeyword h

/-! ## Undoing the escapes -/

/-- **Names without traces of an escape**: no number sign, and no underscore at the end. -/
def IsBare (ident : Text) : Prop :=
  '#' ∉ ident ∧ ident.getLast? ≠ some '_'

/-- **The name that a segment was made from**: without the mark of a raw identifier in front, or
without the underscore at its end. -/
def unescaped (segment : Text) : Text :=
  match (['r', '#'] : Text).isPrefixOf? segment with
  | some ident => ident
  | none => if segment.getLast? = some '_' then segment.dropLast else segment

theorem isPrefixOf?_mark (h : '#' ∉ ident) : (['r', '#'] : Text).isPrefixOf? ident = none := by
  rw [Option.eq_none_iff_forall_ne_some]
  intro rest hrest
  obtain rfl := List.isPrefixOf?_eq_some_iff_append_eq.mp hrest
  exact h (by simp)

/-- **Escaping is undone** on names without traces of an escape. -/
theorem unescaped_escaped (h : IsBare ident) : unescaped (escaped ident) = ident := by
  obtain ⟨hsign, hlast⟩ := h
  unfold escaped
  split
  · -- the underscore is at the end, and no mark in front
    have hmark : '#' ∉ ident ++ ['_'] := by
      rw [List.mem_append, List.mem_singleton]
      rintro (hmem | hmem)
      · exact hsign hmem
      · exact absurd hmem (by decide)
    rw [unescaped, isPrefixOf?_mark hmark]
    simp
  · split
    · rfl
    · rw [unescaped, isPrefixOf?_mark hsign]
      exact if_neg hlast

/-- **Names in `snake` case** have no trace of an escape: their underscores stand between words. -/
theorem isBare_snake (name : Text) : IsBare (Text.snake name) := by
  constructor
  · intro hmem
    rcases Text.mem_snake hmem with h | h <;> exact absurd h (by decide)
  · intro hlast
    have hchain := (List.isChain_append.mp (Text.isLevel_snake name)).2.2
    exact hchain '_' hlast '_' rfl ⟨rfl, rfl⟩

/-- **Names in `UpperCamel` case** have no trace of an escape: they are made of name characters. -/
theorem isBare_upperCamel (name : Text) : IsBare (Text.upperCamel name) := by
  constructor
  · intro hmem
    exact absurd (Text.mem_upperCamel hmem) (by decide)
  · intro hlast
    exact absurd (Text.mem_upperCamel (List.mem_of_getLast? hlast)) (by decide)

/-- Modules agree if and only if the names of their messages do in `snake` case. -/
theorem map_ofMessage_eq_iff :
    nesting.map ofMessage = nesting'.map ofMessage ↔
      nesting.map Text.snake = nesting'.map Text.snake := by
  have hundo (names : List Text) : (names.map ofMessage).map unescaped = names.map Text.snake := by
    rw [List.map_map]
    exact List.map_congr_left fun name _ => unescaped_escaped (isBare_snake name)
  have hescape (names : List Text) : names.map ofMessage = (names.map Text.snake).map escaped := by
    rw [List.map_map]
    rfl
  constructor
  · intro h
    rw [← hundo, h, hundo]
  · intro h
    rw [hescape, h, ← hescape]

/-- Types agree if and only if the names of their enums do in `UpperCamel` case. -/
theorem ofEnum_eq_iff : ofEnum enum = ofEnum enum' ↔ Text.upperCamel enum = Text.upperCamel enum' := by
  constructor
  · intro h
    rw [← unescaped_escaped (isBare_upperCamel enum), ← unescaped_escaped (isBare_upperCamel enum')]
    exact congrArg unescaped h
  · exact congrArg escaped

/-! ## Paths come apart -/

/-- **The segments of a path**: the pieces between double colons. -/
def segments : Text → List Text
  | ':' :: ':' :: rest => [] :: segments rest
  | c :: rest => (segments rest).modifyHead (c :: ·)
  | [] => [[]]

/-- Text without colons goes to the front of the first segment. -/
theorem segments_append {part : Text} (hpart : ':' ∉ part) (rest : Text) :
    segments (part ++ rest) = (segments rest).modifyHead (part ++ ·) := by
  induction part with
  | nil =>
    change segments rest = (segments rest).modifyHead id
    cases segments rest <;> rfl
  | cons c part ih =>
    rw [List.mem_cons, not_or] at hpart
    rw [List.cons_append, segments, ih hpart.2, List.modifyHead_modifyHead]
    · rfl
    · rintro rest' heq -
      exact hpart.1 heq.symm

/-- **Segments joined by double colons come apart**, if none of them holds a colon. -/
theorem segments_intercalate {parts : List Text} (hne : parts ≠ [])
    (hparts : ∀ part ∈ parts, ':' ∉ part) : segments ([':', ':'].intercalate parts) = parts := by
  induction parts with
  | nil => exact absurd rfl hne
  | cons part parts ih =>
    obtain ⟨hpart, hparts⟩ := List.forall_mem_cons.mp hparts
    cases parts with
    | nil =>
      have hlast := segments_append hpart []
      rw [List.append_nil] at hlast
      rw [List.intercalate_singleton, hlast, segments, List.modifyHead_cons, List.append_nil]
    | cons next parts =>
      rw [List.intercalate_cons_cons, List.append_assoc, segments_append hpart, List.cons_append,
        List.singleton_append, segments, ih (List.cons_ne_nil next parts) hparts,
        List.modifyHead_cons, List.append_nil]

theorem colon_notMem_escaped (h : ∀ c ∈ ident, isNameChar c = true ∨ c = '_') :
    ':' ∉ escaped ident := by
  intro hmem
  rcases isNameChar_of_mem_escaped h hmem with h | h | h <;> exact absurd h (by decide)

/-- **The path of a type comes apart** into its modules and the type. -/
theorem segments_typePath (nesting : List Text) (enum : Text) :
    segments (typePath nesting enum) = nesting.map ofMessage ++ [ofEnum enum] := by
  apply segments_intercalate (by simp)
  rw [List.forall_mem_append, List.forall_mem_singleton]
  constructor
  · intro part hpart
    obtain ⟨message, -, rfl⟩ := List.mem_map.mp hpart
    exact colon_notMem_escaped fun _ => Text.mem_snake
  · exact colon_notMem_escaped fun _ hc => .inl (Text.mem_upperCamel hc)

/-- **Paths of types are faithful.** Two paths agree if and only if the messages have the same names
in `snake` case, one by one, and the enums have the same name in `UpperCamel` case. A path has one
segment for each message and one for the enum, and no segment is a keyword. -/
theorem typePath_faithful (nesting nesting' : List Text) (enum enum' : Text) :
    (typePath nesting enum = typePath nesting' enum' ↔
      nesting.map Text.snake = nesting'.map Text.snake ∧
        Text.upperCamel enum = Text.upperCamel enum') ∧
    (segments (typePath nesting enum)).length = nesting.length + 1 ∧
    ∀ segment ∈ segments (typePath nesting enum), segment ∉ languageKeywords := by
  refine ⟨?_, ?_, ?_⟩
  · rw [← map_ofMessage_eq_iff, ← ofEnum_eq_iff]
    constructor
    · intro h
      have hsegments := congrArg segments h
      rw [segments_typePath, segments_typePath] at hsegments
      obtain ⟨hmodules, htype⟩ := List.append_inj' hsegments rfl
      exact ⟨hmodules, List.singleton_inj.mp htype⟩
    · rintro ⟨hmodules, htype⟩
      rw [typePath, hmodules, htype, typePath]
  · rw [segments_typePath, List.length_append, List.length_map, List.length_singleton]
  · -- every segment is an escaped name
    rw [segments_typePath, List.forall_mem_append, List.forall_mem_singleton]
    constructor
    · intro segment hsegment
      obtain ⟨message, -, rfl⟩ := List.mem_map.mp hsegment
      exact escaped_notMem_languageKeywords _
    · exact escaped_notMem_languageKeywords _

end EnumCodegen.Identifier
