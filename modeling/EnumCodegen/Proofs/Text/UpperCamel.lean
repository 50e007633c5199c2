import EnumCodegen.Proofs.Text.Snake

/-!
# What `UpperCamel` names keep of the words

An `UpperCamel` name has no separators, so where a word begins shows only in its capital. A word that
begins with a digit has none, and runs into the word before it. So the `UpperCamel` form of an ASCII
name and its `snake` form tell names apart alike, but for the underscores that stand before a digit.

## Main definitions

* `CharClass.isSmall`: small letters and digits
* `Text.withoutDigitBreaks`: text without the underscores before digits
* `Text.capitalBreaks`, `Text.camelFrom`: from capitals to underscores and back

## Main results

* `Text.dropWhile_capitalBreaks_upperCamel`: the `UpperCamel` form tells these underscores
* `Text.camelFrom_withoutDigitBreaks_snake`: and is told by them
* `Text.upperCamel_eq_iff`: when two names have one `UpperCamel` form
-/

namespace EnumCodegen

namespace CharClass

/-- **Small letters and digits** of ASCII. -/
def isSmall (c : Char) : Bool :=
  c.isLower || c.isDigit

theorem isAlphanum_of_isSmall {c : Char} (hc : isSmall c = true) : c.isAlphanum = true := by
  rcases Bool.or_eq_true_iff.mp hc with hlower | hdigit
  · have halpha : c.isAlpha = true := Bool.or_eq_true_iff.mpr (.inr hlower)
    exact Bool.or_eq_true_iff.mpr (.inl halpha)
  · exact Bool.or_eq_true_iff.mpr (.inr hdigit)

/-- Small letters have a capital from which they come back, and digits have none. -/
theorem isSmall_cases {c : Char} (hc : isSmall c = true) :
    c ≠ '_' ∧ c.isUpper = false ∧ (c.isDigit = true → c.toUpper = c) ∧
      (c.isDigit = false → c.toUpper.isUpper = true ∧ c.toUpper.toLower = c) := by
  have hascii := isAscii_of_isAlphanum (isAlphanum_of_isSmall hc)
  revert hc
  apply of_isAscii _ hascii
  decide +kernel

theorem isSmall_toLower {c : Char} (hc : c.isAlphanum = true) : isSmall c.toLower = true := by
  have hascii := isAscii_of_isAlphanum hc
  revert hc
  apply of_isAscii _ hascii
  decide +kernel

end CharClass

namespace Text

open CharClass

/-! ## Small words -/

/-- **Small words**: small letters and digits, at least one. -/
def IsSmallWord (word : Text) : Prop :=
  word ≠ [] ∧ ∀ c ∈ word, isSmall c = true

variable {word rest : Text} {words : List Text}

theorem IsSmallWord.underscore_notMem (h : IsSmallWord word) : '_' ∉ word :=
  fun hmem => (isSmall_cases (h.2 '_' hmem)).1 rfl

/-- The words of an ASCII name are small words in lower case. -/
theorem isSmallWord_lowercase_words {name : Text} (hname : ∀ c ∈ name, isAscii c = true) :
    ∀ word ∈ (Text.words name).map lowercase, IsSmallWord word := by
  intro part hpart
  refine ⟨(lowercase_words name part hpart).1, ?_⟩
  obtain ⟨word, hword, rfl⟩ := List.mem_map.mp hpart
  have hascii : ∀ c ∈ word, isAscii c = true := fun c hc => hname c (mem_of_mem_words hword hc).1
  rw [lowercase_ascii hascii]
  intro c hc
  obtain ⟨d, hd, rfl⟩ := List.mem_map.mp hc
  have hletter := (mem_of_mem_words hword hd).2
  rw [isAlphanumeric_ascii (hascii d hd)] at hletter
  exact isSmall_toLower hletter

/-- **A word behind another** without the underscore between them, if it begins with a digit. -/
def behindWord (word : Text) : Text :=
  if word.head?.any Char.isDigit then word else '_' :: word

theorem behindWord_cons (c : Char) (word : Text) :
    behindWord (c :: word) = if c.isDigit then c :: word else '_' :: c :: word := rfl

/-! ## Underscores before digits -/

/-- **Text without the underscores before digits.** -/
def withoutDigitBreaks : Text → Text
  | '_' :: d :: rest =>
    if d.isDigit then withoutDigitBreaks (d :: rest) else '_' :: withoutDigitBreaks (d :: rest)
  | c :: rest => c :: withoutDigitBreaks rest
  | [] => []

theorem withoutDigitBreaks_append (hword : '_' ∉ word) (rest : Text) :
    withoutDigitBreaks (word ++ rest) = word ++ withoutDigitBreaks rest := by
  induction word with
  | nil => rfl
  | cons c word ih =>
    rw [List.mem_cons, not_or] at hword
    rw [List.cons_append, withoutDigitBreaks, ih hword.2]
    · rfl
    · rintro d rest' heq -
      exact hword.1 heq.symm

/-- Words behind underscores keep those that stand before a letter. -/
theorem withoutDigitBreaks_flatMap (hwords : ∀ word ∈ words, IsSmallWord word) :
    withoutDigitBreaks (words.flatMap (['_'] ++ ·)) = words.flatMap behindWord := by
  induction words with
  | nil => rfl
  | cons word words ih =>
    obtain ⟨hword, hlater⟩ := List.forall_mem_cons.mp hwords
    have hrest := withoutDigitBreaks_append hword.underscore_notMem (words.flatMap (['_'] ++ ·))
    rw [ih hlater] at hrest
    -- whether the underscore stays is decided by the first character of the word behind it
    obtain ⟨c, word, rfl⟩ := List.exists_cons_of_ne_nil hword.1
    rw [List.flatMap_cons, List.flatMap_cons, behindWord_cons, List.singleton_append,
      List.cons_append, List.cons_append, withoutDigitBreaks, ← List.cons_append, hrest]
    split <;> rfl

/-- **The `snake` form without underscores before digits**: its first word, and the others behind
it. -/
theorem withoutDigitBreaks_intercalate (hword : IsSmallWord word)
    (hwords : ∀ word ∈ words, IsSmallWord word) :
    withoutDigitBreaks (['_'].intercalate (word :: words)) = word ++ words.flatMap behindWord := by
  rw [intercalate_cons, withoutDigitBreaks_append hword.underscore_notMem,
    withoutDigitBreaks_flatMap hwords]

/-! ## From capitals to underscores -/

/-- **The text with an underscore before every capital**, in lower case. -/
def capitalBreaks (text : Text) : Text :=
  text.flatMap fun c => if c.isUpper then ['_', c.toLower] else [c]

theorem capitalBreaks_append (text rest : Text) :
    capitalBreaks (text ++ rest) = capitalBreaks text ++ capitalBreaks rest :=
  List.flatMap_append

theorem capitalBreaks_of_forall_isSmall (h : ∀ c ∈ word, isSmall c = true) :
    capitalBreaks word = word := by
  have hsame : ∀ c ∈ word, (if c.isUpper then ['_', c.toLower] else [c]) = [c] := by
    intro c hc
    rw [(isSmall_cases (h c hc)).2.1]
    rfl
  rw [capitalBreaks, List.flatMap_congr hsame, List.flatMap_singleton']

/-- The capital of a word is an underscore before it, if it has one. -/
theorem capitalBreaks_modifyHead (hword : IsSmallWord word) :
    capitalBreaks (word.modifyHead Char.toUpper) = behindWord word := by
  obtain ⟨c, word, rfl⟩ := List.exists_cons_of_ne_nil hword.1
  obtain ⟨hc, hword⟩ := List.forall_mem_cons.mp hword.2
  obtain ⟨-, hsmall, hdigit, hletter⟩ := isSmall_cases hc
  rw [List.modifyHead_cons, ← List.singleton_append, capitalBreaks_append,
    capitalBreaks_of_forall_isSmall hword, behindWord_cons]
  cases h : c.isDigit with
  | true => simp [capitalBreaks, hdigit h, hsmall]
  | false =>
    obtain ⟨hupper, hback⟩ := hletter h
    simp [capitalBreaks, hupper, hback]

theorem capitalBreaks_flatMap (hwords : ∀ word ∈ words, IsSmallWord word) :
    capitalBreaks (words.flatMap (·.modifyHead Char.toUpper)) = words.flatMap behindWord := by
  induction words with
  | nil => rfl
  | cons word words ih =>
    obtain ⟨hword, hwords⟩ := List.forall_mem_cons.mp hwords
    rw [List.flatMap_cons, List.flatMap_cons, capitalBreaks_append, ih hwords,
      capitalBreaks_modifyHead hword]

/-- **The `UpperCamel` form tells the `snake` form** but for the underscores before digits. -/
theorem dropWhile_capitalBreaks_upperCamel {name : Text} (hname : ∀ c ∈ name, isAscii c = true) :
    (capitalBreaks (upperCamel name)).dropWhile (· = '_') = withoutDigitBreaks (snake name) := by
  have hwords := isSmallWord_lowercase_words hname
  rw [upperCamel_ascii hname, capitalBreaks_flatMap hwords, snake]
  cases h : (Text.words name).map lowercase with
  | nil => rfl
  | cons word words =>
    rw [h] at hwords
    obtain ⟨hword, hwords⟩ := List.forall_mem_cons.mp hwords
    rw [withoutDigitBreaks_intercalate hword hwords, List.flatMap_cons]
    obtain ⟨c, word, rfl⟩ := List.exists_cons_of_ne_nil hword.1
    have hc : c ≠ '_' := (isSmall_cases (hword.2 c List.mem_cons_self)).1
    -- before the first word there is at most the underscore of its capital
    rw [behindWord_cons]
    split
    · rw [List.cons_append, List.dropWhile_cons_of_neg (by simpa using hc)]
    · rw [List.cons_append, List.dropWhile_cons_of_pos (by simp), List.cons_append,
        List.dropWhile_cons_of_neg (by simpa using hc)]

/-! ## From underscores to capitals -/

/-- **The text without underscores**, and with a capital behind each of them. The first character
becomes a capital too if the text starts a word. -/
def camelFrom (starts : Bool) : Text → Text
  | [] => []
  | c :: rest =>
    if c = '_' then camelFrom true rest
    else (if starts then c.toUpper else c) :: camelFrom false rest

theorem camelFrom_append (hword : '_' ∉ word) (rest : Text) :
    camelFrom false (word ++ rest) = word ++ camelFrom false rest := by
  induction word with
  | nil => rfl
  | cons c word ih =>
    rw [List.mem_cons, not_or] at hword
    rw [List.cons_append, camelFrom, if_neg (Ne.symm hword.1), ih hword.2]
    rfl

/-- A word that starts has a capital. -/
theorem camelFrom_true_append (hword : IsSmallWord word) (rest : Text) :
    camelFrom true (word ++ rest) = word.modifyHead Char.toUpper ++ camelFrom false rest := by
  have hunderscore := hword.underscore_notMem
  obtain ⟨c, word, rfl⟩ := List.exists_cons_of_ne_nil hword.1
  rw [List.mem_cons, not_or] at hunderscore
  rw [List.cons_append, camelFrom, if_neg (Ne.symm hunderscore.1),
    camelFrom_append hunderscore.2]
  rfl

/-- A word behind another has a capital too, if only that of a digit. -/
theorem camelFrom_behindWord (hword : IsSmallWord word) (rest : Text) :
    camelFrom false (behindWord word ++ rest) =
      word.modifyHead Char.toUpper ++ camelFrom false rest := by
  have hstart := camelFrom_true_append hword rest
  have hgoesOn := camelFrom_append hword.underscore_notMem rest
  obtain ⟨c, word, rfl⟩ := List.exists_cons_of_ne_nil hword.1
  rw [behindWord_cons]
  split
  · next hdigit =>
    -- a digit is its own capital, so nothing shows that a word begins there
    rw [hgoesOn, List.modifyHead_cons,
      (isSmall_cases (hword.2 c List.mem_cons_self)).2.2.1 hdigit]
  · rw [List.cons_append, camelFrom, if_pos rfl, hstart]

theorem camelFrom_flatMap (hwords : ∀ word ∈ words, IsSmallWord word) :
    camelFrom false (words.flatMap behindWord) = words.flatMap (·.modifyHead Char.toUpper) := by
  induction words with
  | nil => rfl
  | cons word words ih =>
    obtain ⟨hword, hwords⟩ := List.forall_mem_cons.mp hwords
    rw [List.flatMap_cons, List.flatMap_cons, camelFrom_behindWord hword, ih hwords]

/-- **The `snake` form tells the `UpperCamel` form** without its underscores before digits. -/
theorem camelFrom_withoutDigitBreaks_snake {name : Text} (hname : ∀ c ∈ name, isAscii c = true) :
    camelFrom true (withoutDigitBreaks (snake name)) = upperCamel name := by
  have hwords := isSmallWord_lowercase_words hname
  rw [upperCamel_ascii hname, snake]
  cases h : (Text.words name).map lowercase with
  | nil => rfl
  | cons word words =>
    rw [h] at hwords
    obtain ⟨hword, hwords⟩ := List.forall_mem_cons.mp hwords
    rw [withoutDigitBreaks_intercalate hword hwords, camelFrom_true_append hword,
      camelFrom_flatMap hwords, List.flatMap_cons]

/-- **Two ASCII names have one `UpperCamel` form** if and only if their `snake` forms differ in
underscores before digits at most. -/
theorem upperCamel_eq_iff {name name' : Text} (hname : ∀ c ∈ name, isAscii c = true)
    (hname' : ∀ c ∈ name', isAscii c = true) :
    upperCamel name = upperCamel name' ↔
      withoutDigitBreaks (snake name) = withoutDigitBreaks (snake name') := by
  constructor
  · intro h
    rw [← dropWhile_capitalBreaks_upperCamel hname, h, dropWhile_capitalBreaks_upperCamel hname']
  · intro h
    rw [← camelFrom_withoutDigitBreaks_snake hname, h, camelFrom_withoutDigitBreaks_snake hname']

end Text

end EnumCodegen
