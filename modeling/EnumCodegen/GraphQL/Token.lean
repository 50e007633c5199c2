import EnumCodegen.GraphQL.BlockString
import EnumCodegen.Json.Parser
import EnumCodegen.Text.Quoted

/-!
# The tokens of GraphQL

A GraphQL document is a sequence of tokens: punctuators, names, numbers and strings. Blanks, line
ends, commas, byte order marks and comments stand between tokens and mean nothing. Strings stand
between quotes, with escapes as in JSON, or are block strings.

## Main definitions

* `GraphQL.Token`: the tokens
* `GraphQL.isNameStart`, `GraphQL.isNameContinue`: the characters of names
* `GraphQL.skipIgnored`: passing over what stands between tokens
* `GraphQL.readToken?`: reading a token
* `GraphQL.lex?`: reading all tokens of a document
-/

namespace EnumCodegen.GraphQL

/-- **Tokens.** Strings are given by their value, the others by their spelling. -/
inductive Token where
  | punctuator (spelling : Text)
  | name (spelling : Text)
  | number (spelling : Text)
  | string (value : Text)
  deriving Repr, DecidableEq

/-- The characters with which names start. -/
def isNameStart (c : Char) : Bool :=
  c.isAlpha || c = '_'

/-- The characters of names. -/
def isNameContinue (c : Char) : Bool :=
  c.isAlphanum || c = '_'

/-- The punctuators of one character. -/
def punctuators : List Char :=
  ['!', '$', '&', '(', ')', ':', '=', '@', '[', ']', '\x7b', '|', '\x7d']

/-- Whether a character is a punctuator by itself. -/
def isPunctuator (c : Char) : Bool :=
  punctuators.contains c

/-- What may stand between tokens besides comments. -/
def isIgnored (c : Char) : Bool :=
  isBlank c || isLineEnd c || c = ',' || c = '\uFEFF'

/-- **Passing over what stands between tokens.** A comment runs from its number sign to the end of
the line. -/
def skipIgnored (inComment : Bool) : Text → Text
  | [] => []
  | c :: rest =>
    if inComment then skipIgnored (!isLineEnd c) rest
    else if c = '#' then skipIgnored true rest
    else if isIgnored c then skipIgnored false rest
    else c :: rest

/-! ## Strings -/

/-- The character with the given hexadecimal digits as its code point. -/
def codePoint? (digits : Text) : Option Char := do
  if digits.isEmpty then none
  let n ← digits.foldlM (fun n digit => (Text.hexDigit? digit).map (n * 16 + ·)) 0
  if n.isValidChar then some (Char.ofNat n) else none

/-- **Reading an escape**, behind its backslash: a code point in braces, or an escape of JSON. -/
def unescape? : Text → Option (Char × Text)
  | 'u' :: '\x7b' :: rest =>
    match rest.dropWhile (· ≠ '\x7d') with
    | [] => none
    | _ :: after => (codePoint? (rest.takeWhile (· ≠ '\x7d'))).map (·, after)
  | text => Json.unescape? text

theorem unescape?_length {text rest : Text} {c : Char} (h : unescape? text = some (c, rest)) :
    rest.length < text.length := by
  unfold unescape? at h
  split at h
  · next digits =>
    split at h
    · simp at h
    · next closing after hclosing =>
      have hle : (digits.dropWhile (· ≠ '\x7d')).length ≤ digits.length :=
        (List.dropWhile_sublist _).length_le
      obtain ⟨value, -, heq⟩ := Option.map_eq_some_iff.mp h
      obtain ⟨-, rfl⟩ := Prod.mk.inj heq
      rw [hclosing] at hle
      simp only [List.length_cons] at hle ⊢
      omega
  · exact Json.unescape?_length h

/-- **Reading a string** behind its opening quote: its value, and what follows its closing quote. -/
def readQuoted? : Text → Option (Text × Text)
  | [] => none
  | '"' :: rest => some ([], rest)
  | '\\' :: rest =>
    match _h : unescape? rest with
    | some (c, rest') => (readQuoted? rest').map fun (value, after) => (c :: value, after)
    | none => none
  | c :: rest =>
    if isLineEnd c then none
    else (readQuoted? rest).map fun (value, after) => (c :: value, after)
termination_by text => text.length
decreasing_by
  · exact Nat.lt_succ_of_lt (unescape?_length _h)
  · simp

theorem readQuoted?_length {text value rest : Text} (h : readQuoted? text = some (value, rest)) :
    rest.length < text.length := by
  fun_induction readQuoted? text generalizing value with
  | case1 => simp at h
  | case2 after =>
    obtain ⟨-, rfl⟩ := Prod.mk.inj (Option.some.inj h)
    exact Nat.lt_succ_self _
  | case3 after c rest' hescape ih =>
    obtain ⟨value', hread⟩ := exists_of_map_eq_some h fun _ => rfl
    exact Nat.lt_succ_of_lt (Nat.lt_trans (ih hread) (unescape?_length hescape))
  | case4 => simp at h
  | case5 => simp at h
  | case6 c after _ _ _ ih =>
    obtain ⟨value', hread⟩ := exists_of_map_eq_some h fun _ => rfl
    exact Nat.lt_succ_of_lt (ih hread)

/-! ## Numbers -/

/-- What follows one or more digits. -/
def afterDigits? : Text → Option Text
  | [] => none
  | c :: rest => if c.isDigit then some (rest.dropWhile (·.isDigit)) else none

/-- What follows the whole part of a number. It has no leading zero. -/
def afterWhole? : Text → Option Text
  | '-' :: '0' :: rest => some rest
  | '-' :: rest => afterDigits? rest
  | '0' :: rest => some rest
  | text => afterDigits? text

/-- What follows the fraction of a number, if it has one. -/
def afterFraction? : Text → Option Text
  | '.' :: rest => afterDigits? rest
  | text => some text

/-- What follows the exponent of a number, if it has one. -/
def afterExponent? : Text → Option Text
  | [] => some []
  | c :: rest =>
    if c = 'e' ∨ c = 'E' then
      match rest with
      | '+' :: rest => afterDigits? rest
      | '-' :: rest => afterDigits? rest
      | _ => afterDigits? rest
    else some (c :: rest)

/-- What follows a number. Neither a name nor a dot may. -/
def afterNumber? (text : Text) : Option Text := do
  let rest ← afterWhole? text
  let rest ← afterFraction? rest
  let rest ← afterExponent? rest
  if rest.head?.any fun c => isNameContinue c || c = '.' then none else some rest

theorem afterDigits?_length {text rest : Text} (h : afterDigits? text = some rest) :
    rest.length < text.length := by
  unfold afterDigits? at h
  split at h
  · simp at h
  · next c after =>
    split at h
    · obtain rfl := Option.some.inj h
      exact Nat.lt_succ_of_le (List.dropWhile_sublist _).length_le
    · simp at h

theorem afterWhole?_length {text rest : Text} (h : afterWhole? text = some rest) :
    rest.length < text.length := by
  unfold afterWhole? at h
  split at h
  · obtain rfl := Option.some.inj h
    simp only [List.length_cons]
    omega
  · exact Nat.lt_succ_of_lt (afterDigits?_length h)
  · obtain rfl := Option.some.inj h
    exact Nat.lt_succ_self _
  · exact afterDigits?_length h

theorem afterFraction?_length_le {text rest : Text} (h : afterFraction? text = some rest) :
    rest.length ≤ text.length := by
  unfold afterFraction? at h
  split at h
  · exact Nat.le_succ_of_le (Nat.le_of_lt (afterDigits?_length h))
  · obtain rfl := Option.some.inj h
    exact Nat.le_refl _

theorem afterExponent?_length_le {text rest : Text} (h : afterExponent? text = some rest) :
    rest.length ≤ text.length := by
  unfold afterExponent? at h
  split at h
  · obtain rfl := Option.some.inj h
    exact Nat.le_refl _
  · next c after =>
    split at h
    · split at h
      all_goals
        have := afterDigits?_length h
        simp only [List.length_cons] at this ⊢
        omega
    · obtain rfl := Option.some.inj h
      exact Nat.le_refl _

theorem afterNumber?_length {text rest : Text} (h : afterNumber? text = some rest) :
    rest.length < text.length := by
  unfold afterNumber? at h
  obtain ⟨whole, hwhole, h⟩ := Option.bind_eq_some_iff.mp h
  obtain ⟨fraction, hfraction, h⟩ := Option.bind_eq_some_iff.mp h
  obtain ⟨exponent, hexponent, h⟩ := Option.bind_eq_some_iff.mp h
  split at h
  · simp at h
  · obtain rfl := Option.some.inj h
    have := afterWhole?_length hwhole
    have := afterFraction?_length_le hfraction
    have := afterExponent?_length_le hexponent
    omega

/-! ## Tokens -/

/-- **Reading a token** that stands next, and what follows it. -/
def readToken? : Text → Option (Token × Text)
  | [] => none
  | '"' :: '"' :: '"' :: rest =>
    (readBlock? rest).map fun (written, after) => (.string (blockValue written), after)
  | '"' :: rest => (readQuoted? rest).map fun (value, after) => (.string value, after)
  | '.' :: '.' :: '.' :: rest => some (.punctuator "...", rest)
  | c :: rest =>
    if isPunctuator c then some (.punctuator [c], rest)
    else if isNameStart c then
      some (.name (c :: rest.takeWhile isNameContinue), rest.dropWhile isNameContinue)
    else
      (afterNumber? (c :: rest)).map fun after =>
        (.number ((c :: rest).take ((c :: rest).length - after.length)), after)

theorem readToken?_length {text rest : Text} {token : Token}
    (h : readToken? text = some (token, rest)) : rest.length < text.length := by
  unfold readToken? at h
  split at h
  · simp at h
  · next after =>
    obtain ⟨written, hread⟩ := exists_of_map_eq_some h fun _ => rfl
    have hlt := readBlock?_length hread
    simp only [List.length_cons]
    omega
  · obtain ⟨value, hread⟩ := exists_of_map_eq_some h fun _ => rfl
    exact Nat.lt_succ_of_lt (readQuoted?_length hread)
  · obtain ⟨-, rfl⟩ := Prod.mk.inj (Option.some.inj h)
    simp only [List.length_cons]
    omega
  · next c after _ _ _ =>
    split at h
    · obtain ⟨-, rfl⟩ := Prod.mk.inj (Option.some.inj h)
      exact Nat.lt_succ_self _
    · split at h
      · obtain ⟨-, rfl⟩ := Prod.mk.inj (Option.some.inj h)
        exact Nat.lt_succ_of_le (List.dropWhile_sublist _).length_le
      · obtain ⟨number, hnumber, heq⟩ := Option.map_eq_some_iff.mp h
        obtain ⟨-, rfl⟩ := Prod.mk.inj heq
        exact afterNumber?_length hnumber

theorem skipIgnored_length_le (inComment : Bool) (text : Text) :
    (skipIgnored inComment text).length ≤ text.length := by
  fun_induction skipIgnored inComment text with
  | case1 => exact Nat.le_refl _
  | case2 c rest ih => exact Nat.le_succ_of_le ih
  | case3 _ rest _ ih => exact Nat.le_succ_of_le ih
  | case4 _ c rest _ _ _ ih => exact Nat.le_succ_of_le ih
  | case5 => exact Nat.le_refl _

/-- **The tokens of a document**, unless something in it is none. -/
def lex? (text : Text) : Option (List Token) :=
  let next := skipIgnored false text
  if next.isEmpty then some []
  else
    match _h : readToken? next with
    | some (token, rest) => (lex? rest).map (token :: ·)
    | none => none
termination_by text.length
decreasing_by
  exact Nat.lt_of_lt_of_le (readToken?_length _h) (skipIgnored_length_le false text)

end EnumCodegen.GraphQL
