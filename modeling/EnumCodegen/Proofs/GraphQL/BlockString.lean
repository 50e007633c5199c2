import EnumCodegen.GraphQL.BlockString
import EnumCodegen.GraphQL.Declaration
import EnumCodegen.Proofs.Schema.Comments

/-!
# Escaped texts in block strings

Escaping puts a backslash before every triple quote, so an escaped text reads back, up to where it
meets what follows it. Before a line end nothing can go wrong. Right before the closing quotes it
can: quotes left over at the end of the text, one or two, make the string end too early, and a
backslash there escapes the closing quotes.

## Main definitions

* `GraphQL.Closable`: the texts behind which the closing quotes may stand

## Main results

* `readBlock?_escapeBlock`: an escaped text reads back
* `readBlock?_of_not_closable`: what is read when the closing quotes may not stand behind the text
-/

namespace EnumCodegen.GraphQL

variable {text after rest written : Text}

/-- **The texts behind which the closing quotes may stand**: they end in no backslash, and escaping
leaves over none of the quotes at their end. -/
def Closable (text : Text) : Prop :=
  text.getLast? ≠ some '\\' ∧ 3 ∣ (text.rtakeWhile (· = '"')).length

instance (text : Text) : Decidable (Closable text) :=
  inferInstanceAs (Decidable (_ ∧ _))

/-! ## The end of a text

Whether the closing quotes may stand behind a text is asked of its end, but escaping and reading go
through it from the front. So the question has to survive taking off what they take in one step: a
triple quote, or one character that starts none. -/

/-- The quotes at the end of a text with one more character in front. -/
theorem length_rtakeWhile_cons (p : Char → Bool) (c : Char) (text : Text) :
    ((c :: text).rtakeWhile p).length =
      if text.all p then text.length + (if p c then 1 else 0) else (text.rtakeWhile p).length := by
  induction text using List.reverseRecOn with
  | nil =>
    rw [← List.nil_append [c], List.rtakeWhile_concat]
    by_cases hc : p c = true <;> simp [hc]
  | append_singleton front last ih =>
    rw [← List.cons_append, List.rtakeWhile_concat, List.rtakeWhile_concat]
    by_cases hlast : p last = true
    · rw [if_pos hlast, if_pos hlast, List.length_append, ih]
      by_cases hfront : front.all p = true
      · simp [hlast, hfront]
        omega
      · simp [hlast, hfront]
    · simp [hlast]

theorem closable_nil : Closable [] := by
  decide

theorem closable_singleton {c : Char} : Closable [c] ↔ c ≠ '\\' ∧ c ≠ '"' := by
  by_cases hquote : c = '"' <;> simp [Closable, List.rtakeWhile, hquote]

theorem getLast?_cons_of_ne_nil (c : Char) (hne : text ≠ []) :
    (c :: text).getLast? = text.getLast? := by
  rw [List.getLast?_cons, List.getLast?_eq_some_getLast hne]
  rfl

/-- Quotes alone are all at the end. -/
theorem length_rtakeWhile_of_all {p : Char → Bool} (h : text.all p = true) :
    (text.rtakeWhile p).length = text.length := by
  rw [List.rtakeWhile_eq_self_iff.mpr (List.all_eq_true.mp h)]

/-- A character that starts no triple quote does not matter in front. -/
theorem closable_cons {c : Char} (hne : text ≠ [])
    (h : ∀ text', c = '"' → text = '"' :: '"' :: text' → False) :
    Closable (c :: text) ↔ Closable text := by
  rw [Closable, Closable, getLast?_cons_of_ne_nil c hne, length_rtakeWhile_cons]
  by_cases hall : text.all (· = '"') = true
  · rw [if_pos hall, length_rtakeWhile_of_all hall]
    by_cases hc : c = '"'
    · -- only one more quote can follow without a triple quote
      match text, hne with
      | [d], _ => simp [hc]
      | d :: e :: text', _ =>
        simp only [List.all_cons, Bool.and_eq_true, decide_eq_true_eq] at hall
        exact (h text' hc (by rw [hall.1, hall.2.1])).elim
    · simp [hc]
  · rw [if_neg hall]

/-- A triple quote in front, which is escaped, does not matter. -/
theorem closable_tripleQuote : Closable ('"' :: '"' :: '"' :: text) ↔ Closable text := by
  cases text with
  | nil => decide
  | cons c text' =>
    have hlast : ('"' :: '"' :: '"' :: c :: text').getLast? = (c :: text').getLast? := rfl
    rw [Closable, Closable, hlast, length_rtakeWhile_cons, length_rtakeWhile_cons,
      length_rtakeWhile_cons]
    by_cases hall : (c :: text').all (· = '"') = true
    · rw [length_rtakeWhile_of_all hall]
      simp [hall]
    · simp [hall]

/-- The closing quotes may stand behind a text whose last character is no quote or backslash. -/
theorem closable_of_getLast? {c : Char} (h : text.getLast? = some c) (hquote : c ≠ '"')
    (hbackslash : c ≠ '\\') : Closable text := by
  obtain ⟨front, rfl⟩ := List.getLast?_eq_some_iff.mp h
  rw [Closable, List.getLast?_concat, List.rtakeWhile_concat_neg _ _ _ (by simpa using hquote)]
  exact ⟨fun h => hbackslash (Option.some.inj h), by simp⟩

/-! ## Escaping piece by piece

Triple quotes are taken from the left, so a text may only be cut where none runs over the cut: before
a character that is no quote, or behind a passage without quotes. -/

theorem escapeBlock_cons {c : Char} (hc : c ≠ '"') (text : Text) :
    escapeBlock (c :: text) = c :: escapeBlock text := by
  rw [escapeBlock]
  intro _ h _
  exact hc h

/-- No triple quote runs over a character that is no quote. -/
theorem escapeBlock_append_cons {c : Char} (hc : c ≠ '"') (text text' : Text) :
    escapeBlock (text ++ c :: text') = escapeBlock text ++ c :: escapeBlock text' := by
  fun_induction escapeBlock text with
  | case1 rest ih => simp [escapeBlock, ih]
  | case2 d rest hno ih =>
    rw [List.cons_append, escapeBlock, ih, List.cons_append]
    intro more hd hmore
    -- the two quotes behind the first would have to stand in the text
    match rest with
    | [] => exact hc (List.cons.inj hmore).1
    | [e] => exact hc (List.cons.inj (List.cons.inj hmore).2).1
    | e :: f :: rest' =>
      obtain ⟨he, htail⟩ := List.cons.inj hmore
      obtain ⟨hf, -⟩ := List.cons.inj htail
      exact hno rest' hd (by rw [he, hf])
  | case3 => exact escapeBlock_cons hc text'

theorem escapeBlock_append_of_notMem {text : Text} (h : '"' ∉ text) (text' : Text) :
    escapeBlock (text ++ text') = text ++ escapeBlock text' := by
  induction text with
  | nil => rfl
  | cons c text ih =>
    rw [List.mem_cons, not_or] at h
    rw [List.cons_append, escapeBlock_cons (Ne.symm h.1), ih h.2, List.cons_append]

/-- **Lines are escaped one by one**, and what stands before them stays. -/
theorem escapeBlock_lines {blanks : Text} (hblanks : '"' ∉ blanks) (lines : List Text)
    (last : Text) :
    escapeBlock ((lines.flatMap fun line => blanks ++ line ++ ['\n']) ++ last) =
      (lines.flatMap fun line => blanks ++ escapeBlock line ++ ['\n']) ++ escapeBlock last := by
  induction lines with
  | nil => rfl
  | cons line lines ih =>
    simp only [List.flatMap_cons, List.append_assoc, List.cons_append, List.nil_append] at ih ⊢
    rw [escapeBlock_append_of_notMem hblanks, escapeBlock_append_cons (by decide), ih]

/-- Escaping adds and removes backslashes only. -/
theorem mem_escapeBlock_iff {c : Char} (hc : c ≠ '\\') : c ∈ escapeBlock text ↔ c ∈ text := by
  fun_induction escapeBlock text with
  | case1 rest ih => simp [hc, ih]
  | case2 d rest _ ih => simp [ih]
  | case3 => rfl

theorem escapeBlock_intercalate {lines : List Text} (hne : lines ≠ []) :
    escapeBlock (['\n'].intercalate lines) = ['\n'].intercalate (lines.map escapeBlock) := by
  obtain ⟨front, last, rfl⟩ := (List.eq_nil_or_concat' lines).resolve_left hne
  have hescape := escapeBlock_lines (List.not_mem_nil (a := '"')) front last
  rw [List.map_append, List.map_singleton, Text.intercalate_concat, Text.intercalate_concat,
    List.flatMap_map]
  exact hescape

/-- Escaping keeps the last character. -/
theorem getLast?_escapeBlock (text : Text) : (escapeBlock text).getLast? = text.getLast? := by
  fun_induction escapeBlock text with
  | case1 rest ih => simp [List.getLast?_cons, ih]
  | case2 c rest _ ih => simp [List.getLast?_cons, ih]
  | case3 => rfl

theorem escapeBlock_eq_nil_iff : escapeBlock text = [] ↔ text = [] := by
  rw [← List.getLast?_eq_none_iff, getLast?_escapeBlock, List.getLast?_eq_none_iff]

/-- A carriage return at the end of a line goes with the line feed, escaped or not. -/
theorem withoutReturn_escapeBlock (line : Text) :
    Text.withoutReturn (escapeBlock line) = escapeBlock (Text.withoutReturn line) := by
  rw [Text.withoutReturn, Text.withoutReturn, getLast?_escapeBlock]
  split
  · next hlast =>
    obtain ⟨front, rfl⟩ := List.getLast?_eq_some_iff.mp hlast
    rw [escapeBlock_append_cons (by decide), List.dropLast_concat, escapeBlock,
      List.dropLast_concat]
  · rfl

/-- **The lines of an escaped text** are the escaped lines of the text. -/
theorem lines_escapeBlock (text : Text) :
    Text.lines (escapeBlock text) = (Text.lines text).map escapeBlock := by
  obtain ⟨front, final, hsplit⟩ := Text.exists_splitOn_concat '\n' text
  have htext : ['\n'].intercalate (front ++ [final]) = text := by
    rw [← hsplit, List.intercalate_splitOn]
  have hpieces : (escapeBlock text).splitOn '\n' = front.map escapeBlock ++ [escapeBlock final] := by
    rw [← htext, escapeBlock_intercalate (by simp), List.splitOn_intercalate '\n' ?_ (by simp),
      List.map_append, List.map_singleton]
    intro part hpart hfeed
    obtain ⟨piece, hpiece, rfl⟩ := List.mem_map.mp hpart
    rw [← hsplit] at hpiece
    exact Text.notMem_of_mem_splitOn hpiece ((mem_escapeBlock_iff (by decide)).mp hfeed)
  have hfront : (front.map escapeBlock).map Text.withoutReturn =
      (front.map Text.withoutReturn).map escapeBlock := by
    rw [List.map_map, List.map_map]
    exact List.map_congr_left fun line _ => withoutReturn_escapeBlock line
  rw [Text.lines_of_splitOn hsplit, Text.lines_of_splitOn hpieces, hfront, List.map_append,
    apply_ite (List.map escapeBlock), List.map_nil, List.map_singleton]
  simp only [escapeBlock_eq_nil_iff]

/-! ## Reading an escaped text

What was escaped is read in the same steps, as long as no step of the reader sees a delimiter that
the step of the escaping did not write. The reader looks ahead by up to three quotes, which is where
the quotes behind the text come in. -/

/-- A quote at the front of an escaped text stands there in the text itself. -/
theorem of_escapeBlock_append_eq_quote (h : escapeBlock text ++ after = '"' :: rest) :
    (text = [] ∧ after = '"' :: rest) ∨
      ∃ text', text = '"' :: text' ∧ (∀ text'', text' ≠ '"' :: '"' :: text'') ∧
        escapeBlock text' ++ after = rest := by
  revert h
  fun_cases escapeBlock text with
  | case1 text' =>
    intro h
    simp at h
  | case2 c text' hno =>
    intro h
    rw [List.cons_append] at h
    obtain ⟨rfl, hrest⟩ := List.cons.inj h
    exact .inr ⟨text', rfl, fun text'' heq => hno text'' rfl heq, hrest⟩
  | case3 =>
    intro h
    exact .inl ⟨rfl, h⟩

theorem readBlock?_cons {c : Char} (hquotes : ∀ rest', c = '"' → rest = '"' :: '"' :: rest' → False)
    (hbackslash : ∀ rest', c = '\\' → rest = '"' :: '"' :: '"' :: rest' → False) :
    readBlock? (c :: rest) =
      (readBlock? rest).map fun (written, after) => (c :: written, after) := by
  rw [readBlock?]
  · exact hquotes
  · exact hbackslash

/-- Nothing in front of an escaped text makes a delimiter with it, unless quotes follow the text and
the closing quotes may not. -/
theorem no_delimiter {c : Char} (hno : ∀ text', c = '"' → text = '"' :: '"' :: text' → False)
    (h : ∀ rest, after = '"' :: rest → Closable (c :: text)) :
    (∀ rest, c = '"' → escapeBlock text ++ after = '"' :: '"' :: rest → False) ∧
      ∀ rest, c = '\\' → escapeBlock text ++ after = '"' :: '"' :: '"' :: rest → False := by
  constructor
  · rintro rest rfl hquotes
    rcases of_escapeBlock_append_eq_quote hquotes with ⟨rfl, hafter⟩ | ⟨text', rfl, -, hquote⟩
    · exact absurd (h _ hafter) (by decide)
    · rcases of_escapeBlock_append_eq_quote hquote with ⟨rfl, hafter⟩ | ⟨text'', rfl, -, -⟩
      · exact absurd (h _ hafter) (by decide)
      · exact hno text'' rfl rfl
  · rintro rest rfl hquotes
    rcases of_escapeBlock_append_eq_quote hquotes with ⟨rfl, hafter⟩ | ⟨text', rfl, hno', hquotes⟩
    · exact absurd (h _ hafter) (by decide)
    · rcases of_escapeBlock_append_eq_quote hquotes with ⟨rfl, hafter⟩ | ⟨text'', rfl, -, hquote⟩
      · exact absurd (h _ hafter) (by decide)
      · rcases of_escapeBlock_append_eq_quote hquote with ⟨rfl, hafter⟩ | ⟨text₃, rfl, -, -⟩
        · exact absurd (h _ hafter) (by decide)
        · -- three quotes would have been escaped
          exact hno' text₃ rfl

/-- **An escaped text reads back**, if no quote follows it or the closing quotes may. -/
theorem readBlock?_escapeBlock (h : ∀ rest, after = '"' :: rest → Closable text) :
    readBlock? (escapeBlock text ++ after) =
      (readBlock? after).map fun (written, rest) => (text ++ written, rest) := by
  -- by the steps of the escaping: the end of the text is the same after each of them
  fun_induction escapeBlock text with
  | case1 text' ih =>
    have hrest := ih fun rest hafter => closable_tripleQuote.mp (h rest hafter)
    simp only [List.cons_append, readBlock?, hrest, Option.map_map]
    rfl
  | case2 c text' hno ih =>
    obtain ⟨hquotes, hbackslash⟩ := no_delimiter hno h
    have hrest := ih fun rest hafter => by
      by_cases hnil : text' = []
      · rw [hnil]
        exact closable_nil
      · exact (closable_cons hnil hno).mp (h rest hafter)
    rw [List.cons_append, readBlock?_cons hquotes hbackslash, hrest, Option.map_map]
    rfl
  | case3 => simp

/-- **A text behind which the closing quotes may stand** reads back from between the quotes. -/
theorem readBlock?_closed (h : Closable text) (after : Text) :
    readBlock? (escapeBlock text ++ (tripleQuote ++ after)) = some (text, after) := by
  have hend : readBlock? (tripleQuote ++ after) = some ([], after) := by
    change readBlock? ('"' :: '"' :: '"' :: after) = _
    rw [readBlock?]
  rw [readBlock?_escapeBlock fun _ _ => h, hend, Option.map_some]
  simp

/-- **What is read when the closing quotes may not stand behind a text.** Either the string ends
within the text, or a backslash of the text makes a triple quote part of the string. -/
theorem readBlock?_of_not_closable (h : ¬ Closable text)
    (hread : readBlock? (escapeBlock text ++ (tripleQuote ++ after)) = some (written, rest)) :
    (∃ tail ≠ [], text = written ++ tail) ∨
      ∃ front tail, text = front ++ '\\' :: tail ∧ front ++ ['"'] <+: written := by
  fun_induction escapeBlock text generalizing written with
  | case1 text' ih =>
    simp only [List.cons_append, readBlock?] at hread
    obtain ⟨⟨written', rest'⟩, hread', heq⟩ := Option.map_eq_some_iff.mp hread
    obtain ⟨rfl, rfl⟩ := Prod.mk.inj heq
    rcases ih (mt closable_tripleQuote.mpr h) hread' with
      ⟨tail, hne, rfl⟩ | ⟨front, tail, rfl, hbegin⟩
    · exact .inl ⟨tail, hne, rfl⟩
    · refine .inr ⟨'"' :: '"' :: '"' :: front, tail, rfl, ?_⟩
      simpa using hbegin
  | case2 c text' hno ih =>
    rw [List.cons_append] at hread
    by_cases hend : c = '"' ∧
        ∃ more, escapeBlock text' ++ (tripleQuote ++ after) = '"' :: '"' :: more
    · -- the string ends here, with this quote
      obtain ⟨rfl, more, hmore⟩ := hend
      rw [hmore, readBlock?] at hread
      obtain ⟨rfl, -⟩ := Prod.mk.inj (Option.some.inj hread)
      exact .inl ⟨_, List.cons_ne_nil _ _, rfl⟩
    by_cases hescape : c = '\\' ∧
        ∃ more, escapeBlock text' ++ (tripleQuote ++ after) = '"' :: '"' :: '"' :: more
    · -- this backslash escapes the quotes behind it
      obtain ⟨rfl, more, hmore⟩ := hescape
      rw [hmore, readBlock?] at hread
      obtain ⟨⟨written', rest'⟩, -, heq⟩ := Option.map_eq_some_iff.mp hread
      obtain ⟨rfl, -⟩ := Prod.mk.inj heq
      exact .inr ⟨[], text', rfl, by simp⟩
    · -- the step is one of the text itself, so the end of the text is still ahead
      have hnil : text' ≠ [] := by
        rintro rfl
        have hc : ¬(c ≠ '\\' ∧ c ≠ '"') := mt closable_singleton.mpr h
        by_cases hquote : c = '"'
        · exact hend ⟨hquote, _, rfl⟩
        · exact hescape ⟨not_not.mp fun hne => hc ⟨hne, hquote⟩, _, rfl⟩
      rw [readBlock?_cons (fun more hc hmore => hend ⟨hc, more, hmore⟩)
        (fun more hc hmore => hescape ⟨hc, more, hmore⟩)] at hread
      obtain ⟨⟨written', rest'⟩, hread', heq⟩ := Option.map_eq_some_iff.mp hread
      obtain ⟨rfl, rfl⟩ := Prod.mk.inj heq
      rcases ih (mt (closable_cons hnil hno).mpr h) hread' with
        ⟨tail, hne, rfl⟩ | ⟨front, tail, rfl, hbegin⟩
      · exact .inl ⟨tail, hne, rfl⟩
      · exact .inr ⟨c :: front, tail, rfl, by simpa using hbegin⟩
  | case3 => exact absurd closable_nil h

end EnumCodegen.GraphQL
