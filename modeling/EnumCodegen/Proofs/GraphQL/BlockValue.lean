import EnumCodegen.GraphQL.BlockString
import EnumCodegen.Proofs.Schema.Comments

/-!
# The values of block strings

A line behind the opening quotes is the value of its string. Lines between quotes on lines of their
own, all behind the same blanks, are the value of theirs, if they begin outside white space and the
first and the last are not empty: the blanks are the indentation that the lines share, and the lines
of the quotes are blank.

## Main definitions

* `GraphQL.indented`: what is written over several lines

## Main results

* `blockLines_append`: the lines of a text behind a passage without line ends
* `blockValue_line`: the value of a string of one line
* `prefix_blockValue`: the value begins with what the string begins with on its first line
* `blockValue_indented`: the value of a string of indented lines
-/

namespace EnumCodegen.GraphQL

/-- **What is written over several lines**: lines behind the same blanks, between the lines of the
opening and the closing quotes. -/
def indented (blanks : Text) (lines : List Text) : Text :=
  '\n' :: ((lines.flatMap fun line => blanks ++ line ++ ['\n']) ++ blanks)

variable {line written blanks : Text} {lines : List Text}

/-! ## Lines -/

/-- The lines of a text behind a passage without line ends. -/
theorem blockLines_append (hline : ∀ c ∈ line, isLineEnd c = false) (text : Text) :
    blockLines (line ++ text) = (blockLines text).modifyHead (line ++ ·) := by
  induction line with
  | nil =>
    rw [List.nil_append]
    cases blockLines text <;> rfl
  | cons c line ih =>
    obtain ⟨hc, hrest⟩ := List.forall_mem_cons.mp hline
    rw [List.cons_append, blockLines, hc, ih hrest, List.modifyHead_modifyHead]
    · rfl
    · rintro _ rfl -
      exact absurd hc (by decide)

theorem blockLines_ne_nil (text : Text) : blockLines text ≠ [] := by
  fun_induction blockLines text with
  | case1 => simp
  | case2 => simp
  | case3 => simp
  | case4 c text _ _ ih =>
    intro h
    have hlength := congrArg List.length h
    simp [ih] at hlength

theorem blockLines_line (hline : ∀ c ∈ line, isLineEnd c = false) : blockLines line = [line] := by
  have happend := blockLines_append hline []
  rw [List.append_nil] at happend
  rw [happend, blockLines, List.modifyHead_cons, List.append_nil]

theorem blockLines_lineFeed (text : Text) : blockLines ('\n' :: text) = [] :: blockLines text := by
  rw [blockLines]
  · rfl
  · rintro _ h -
    exact absurd h (by decide)

theorem blockLines_line_append (hline : ∀ c ∈ line, isLineEnd c = false) (text : Text) :
    blockLines (line ++ '\n' :: text) = line :: blockLines text := by
  rw [blockLines_append hline, blockLines_lineFeed, List.modifyHead_cons, List.append_nil]

theorem isLineEnd_eq_false (hfeed : '\n' ∉ line) (hreturn : '\r' ∉ line) {c : Char}
    (hc : c ∈ line) : isLineEnd c = false := by
  have hne : c ≠ '\n' := by
    rintro rfl
    exact hfeed hc
  have hne' : c ≠ '\r' := by
    rintro rfl
    exact hreturn hc
  simp [isLineEnd, hne, hne']

/-! ## Edges -/

/-- Dropping at the end stops at a member outside the class. -/
theorem rdropWhile_cons_of_neg {α : Type} {drop : α → Bool} {first : α} (h : drop first = false)
    (items : List α) : (first :: items).rdropWhile drop = first :: items.rdropWhile drop := by
  induction items using List.reverseRecOn with
  | nil => simp [List.rdropWhile_singleton, h]
  | append_singleton items last ih =>
    rw [← List.cons_append, List.rdropWhile_concat, List.rdropWhile_concat, ih]
    split
    · rfl
    · rfl

/-- The edges go as the ends of a list do. -/
theorem withoutBlankEdges_eq (lines : List Text) :
    withoutBlankEdges lines = innerItems isBlankLine lines :=
  rfl

theorem withoutBlankEdges_cons (h : isBlankLine line = false) (lines : List Text) :
    withoutBlankEdges (line :: lines) = line :: lines.rdropWhile isBlankLine := by
  have hstart : (line :: lines).dropWhile isBlankLine = line :: lines :=
    List.dropWhile_cons_of_neg (by simp [h])
  rw [withoutBlankEdges, hstart]
  exact rdropWhile_cons_of_neg h lines

/-! ## One line -/

/-- **The value of a string of one line** is the line, unless it is blank. -/
theorem blockValue_line (hline : ∀ c ∈ line, isLineEnd c = false) :
    blockValue line = if isBlankLine line then [] else line := by
  rw [blockValue, blockLines_line hline]
  by_cases hblank : isBlankLine line = true
  · simp [unindented, withoutBlankEdges, hblank]
  · have hblank' : isBlankLine line = false := by simpa using hblank
    simp [unindented, withoutBlankEdges_cons hblank', hblank']

/-- **The value begins with what the string begins with** on its first line, if that is not
blank. -/
theorem prefix_blockValue (hline : ∀ c ∈ line, isLineEnd c = false)
    (hblank : isBlankLine line = false) (h : line <+: written) : line <+: blockValue written := by
  obtain ⟨more, rfl⟩ := h
  rw [blockValue, blockLines_append hline]
  obtain ⟨first, others, hmore⟩ := List.exists_cons_of_ne_nil (blockLines_ne_nil more)
  have hfirst : isBlankLine (line ++ first) = false := by
    rw [isBlankLine, List.all_append, ← isBlankLine, hblank, Bool.false_and]
  rw [hmore, List.modifyHead_cons, unindented, List.take_succ_cons, List.take_zero,
    List.singleton_append, withoutBlankEdges_cons hfirst]
  exact (List.prefix_append _ _).trans (Text.prefix_intercalate_cons _ _ _)

/-! ## Several lines

The first line of what is written stands behind the opening quotes and is empty, and the last holds
the blanks before the closing quotes. Both are blank, so the lines between them decide alone on the
indentation, and are what stays. -/

/-- Blanks are white space. -/
theorem isBlank_eq_false_of_isWhiteSpace {c : Char} (h : CharClass.isWhiteSpace c = false) :
    isBlank c = false := by
  rw [Bool.eq_false_iff] at h ⊢
  intro hblank
  simp only [isBlank, Bool.or_eq_true, decide_eq_true_eq] at hblank
  rcases hblank with rfl | rfl
  · exact h (by decide)
  · exact h (by decide)

theorem isLineEnd_eq_false_of_isBlank {c : Char} (h : isBlank c = true) : isLineEnd c = false := by
  simp only [isBlank, Bool.or_eq_true, decide_eq_true_eq] at h
  rcases h with rfl | rfl <;> decide

/-- A trimmed line begins with no blank. -/
theorem isBlank_head_eq_false (htrimmed : Text.trimmed CharClass.isWhiteSpace line = line)
    {c : Char} (hc : line.head? = some c) : isBlank c = false :=
  isBlank_eq_false_of_isWhiteSpace (Text.head_trimmed htrimmed hc)

theorem isBlankLine_eq_false (htrimmed : Text.trimmed CharClass.isWhiteSpace line = line)
    (hne : line ≠ []) : isBlankLine line = false := by
  obtain ⟨c, rest, rfl⟩ := List.exists_cons_of_ne_nil hne
  rw [isBlankLine, List.all_cons, isBlank_head_eq_false htrimmed rfl, Bool.false_and]

/-- The lines of what is written over several lines. -/
theorem blockLines_indented (hblanks : ∀ c ∈ blanks, isBlank c = true)
    (hlines : ∀ line ∈ lines, ∀ c ∈ line, isLineEnd c = false) :
    blockLines (indented blanks lines) = [] :: (lines.map (blanks ++ ·) ++ [blanks]) := by
  have hblanks' : ∀ c ∈ blanks, isLineEnd c = false :=
    fun c hc => isLineEnd_eq_false_of_isBlank (hblanks c hc)
  rw [indented, blockLines_lineFeed]
  congr 1
  induction lines with
  | nil => exact blockLines_line hblanks'
  | cons line lines ih =>
    obtain ⟨hline, hrest⟩ := List.forall_mem_cons.mp hlines
    have hfirst : ∀ c ∈ blanks ++ line, isLineEnd c = false := by
      intro c hc
      exact (List.mem_append.mp hc).elim (hblanks' c) (hline c)
    rw [List.flatMap_cons, List.append_assoc, List.append_assoc, List.singleton_append,
      blockLines_line_append hfirst, ih hrest]
    rfl

theorem isBlankLine_append (hblanks : ∀ c ∈ blanks, isBlank c = true) (line : Text) :
    isBlankLine (blanks ++ line) = isBlankLine line := by
  rw [isBlankLine, List.all_append, List.all_eq_true.mpr hblanks, Bool.true_and, isBlankLine]

/-- The blanks before a line that begins with none are its indentation. -/
theorem indentation_append (hblanks : ∀ c ∈ blanks, isBlank c = true)
    (hline : ∀ c, line.head? = some c → isBlank c = false) :
    indentation (blanks ++ line) = blanks.length := by
  have hstart : line.takeWhile isBlank = [] := by
    cases line with
    | nil => rfl
    | cons c line => simp [hline c rfl]
  rw [indentation, List.takeWhile_append_of_pos hblanks, hstart, List.append_nil]

/-- **The indentation that lines share** is the blanks that stand before all of them. -/
theorem commonIndentation_indented (hblanks : ∀ c ∈ blanks, isBlank c = true)
    (hlines : ∀ line ∈ lines, ∀ c, line.head? = some c → isBlank c = false)
    (hne : ∃ line ∈ lines, isBlankLine line = false) :
    commonIndentation ([] :: (lines.map (blanks ++ ·) ++ [blanks])) = blanks.length := by
  have hblank : isBlankLine blanks = true := List.all_eq_true.mpr hblanks
  have hmin : (((lines.map (blanks ++ ·) ++ [blanks]).filter (!isBlankLine ·)).map
      indentation).min? = some blanks.length := by
    rw [List.min?_eq_some_iff]
    constructor
    · obtain ⟨line, hline, hsolid⟩ := hne
      refine List.mem_map.mpr ⟨blanks ++ line, ?_, indentation_append hblanks (hlines line hline)⟩
      rw [List.mem_filter, isBlankLine_append hblanks, hsolid]
      exact ⟨List.mem_append_left _ (List.mem_map.mpr ⟨line, hline, rfl⟩), rfl⟩
    · intro n hn
      obtain ⟨whole, hwhole, rfl⟩ := List.mem_map.mp hn
      obtain ⟨hmem, hsolid⟩ := List.mem_filter.mp hwhole
      rcases List.mem_append.mp hmem with hmem | hmem
      · obtain ⟨line, hline, rfl⟩ := List.mem_map.mp hmem
        exact Nat.le_of_eq (indentation_append hblanks (hlines line hline)).symm
      · -- the line of the closing quotes is blank and does not count
        rw [List.mem_singleton.mp hmem, hblank] at hsolid
        simp at hsolid
  rw [commonIndentation, List.tail_cons, hmin, Option.getD_some]

/-- Edges that are not blank stay, and blank lines around them go. -/
theorem withoutBlankEdges_around (hne : lines ≠ []) (hhead : isBlankLine (lines.head hne) = false)
    (hlast : isBlankLine (lines.getLast hne) = false) :
    withoutBlankEdges ([] :: (lines ++ [[]])) = lines := by
  rw [withoutBlankEdges_eq, innerItems_cons rfl, innerItems_concat rfl, innerItems_eq_self_iff]
  constructor
  · intro line hline
    rw [List.head?_eq_some_head hne] at hline
    rwa [← Option.some.inj hline]
  · intro line hline
    rw [List.getLast?_eq_some_getLast hne] at hline
    rwa [← Option.some.inj hline]

/-- **The value of a string of indented lines** is the lines. -/
theorem blockValue_indented (hblanks : ∀ c ∈ blanks, isBlank c = true) (hlines : NormalLines lines)
    (hreturn : ∀ line ∈ lines, '\r' ∉ line) :
    blockValue (indented blanks lines) = ['\n'].intercalate lines := by
  have hends : ∀ line ∈ lines, ∀ c ∈ line, isLineEnd c = false := by
    intro line hline c hc
    exact isLineEnd_eq_false (hlines.lineFeed_notMem line hline) (hreturn line hline) hc
  have hstarts : ∀ line ∈ lines, ∀ c, line.head? = some c → isBlank c = false :=
    fun line hline c hc => isBlank_head_eq_false (hlines.trimmed line hline) hc
  have hsolid : ∀ line ∈ lines, line ≠ [] → isBlankLine line = false :=
    fun line hline hne => isBlankLine_eq_false (hlines.trimmed line hline) hne
  have hunindented : unindented ([] :: (lines.map (blanks ++ ·) ++ [blanks])) =
      [] :: (lines ++ [[]]) := by
    rw [unindented, commonIndentation_indented hblanks hstarts]
    · have hdrop : ∀ line : Text, (blanks ++ line).drop blanks.length = line :=
        fun line => List.drop_left' rfl
      simp [Function.comp_def, hdrop]
    · exact ⟨_, List.head_mem _, hsolid _ (List.head_mem _) hlines.head_ne_nil⟩
  rw [blockValue, blockLines_indented hblanks hends, hunindented,
    withoutBlankEdges_around hlines.ne_nil (hsolid _ (List.head_mem _) hlines.head_ne_nil)
      (hsolid _ (List.getLast_mem _) hlines.getLast_ne_nil)]

end EnumCodegen.GraphQL
