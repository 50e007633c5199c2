import EnumCodegen.Json.Number

/-!
# Reading JSON texts

Every JSON text is accepted, whatever white space and escapes it uses. Reading takes a bound on its
steps that the length of the text provides.

## Main definitions

* `Json.unescape?`, `Json.readString?`: reading an escape and a string
* `Json.readValue?`: reading a value
* `Json.parse?`: reading a text
-/

namespace EnumCodegen.Json

open Text (hexDigit? isBlank)

/-- A text from its first part on. -/
def skipBlank (text : Text) : Text :=
  text.dropWhile isBlank

/-- Four hexadecimal digits and what follows them. -/
def codeUnit? : Text → Option (Nat × Text)
  | a :: b :: c :: d :: rest => do
    let n ← [a, b, c, d].foldlM (fun n digit => (hexDigit? digit).map (n * 16 + ·)) 0
    return (n, rest)
  | _ => none

/-- The character behind `\u`: one code unit, or two that form a surrogate pair. -/
def unicodeEscape? (text : Text) : Option (Char × Text) := do
  let (unit, rest) ← codeUnit? text
  if unit.isValidChar then return (Char.ofNat unit, rest)
  match rest with
  | '\\' :: 'u' :: low =>
    let (second, rest) ← codeUnit? low
    if unit < 0xdc00 ∧ 0xdc00 ≤ second ∧ second < 0xe000 then
      return (Char.ofNat (0x10000 + (unit - 0xd800) * 0x400 + (second - 0xdc00)), rest)
    else none
  | _ => none

/-- **Reading an escape**, behind its backslash. -/
def unescape? : Text → Option (Char × Text)
  | '"' :: rest => some ('"', rest)
  | '\\' :: rest => some ('\\', rest)
  | '/' :: rest => some ('/', rest)
  | 'b' :: rest => some (Char.ofNat 8, rest)
  | 'f' :: rest => some (Char.ofNat 12, rest)
  | 'n' :: rest => some ('\n', rest)
  | 'r' :: rest => some ('\r', rest)
  | 't' :: rest => some ('\t', rest)
  | 'u' :: rest => unicodeEscape? rest
  | _ => none

theorem codeUnit?_length {text rest : Text} {unit : Nat}
    (h : codeUnit? text = some (unit, rest)) : rest.length < text.length := by
  unfold codeUnit? at h
  split at h
  · next a b c d after =>
    obtain ⟨n, -, hn⟩ := Option.bind_eq_some_iff.mp h
    obtain ⟨-, rfl⟩ := Prod.mk.inj (Option.some.inj hn)
    simp only [List.length_cons]
    omega
  · simp at h

theorem unicodeEscape?_length {text rest : Text} {c : Char}
    (h : unicodeEscape? text = some (c, rest)) : rest.length < text.length := by
  unfold unicodeEscape? at h
  obtain ⟨⟨unit, after⟩, hunit, h⟩ := Option.bind_eq_some_iff.mp h
  have hafter := codeUnit?_length hunit
  simp only at h
  split at h
  · obtain ⟨-, rfl⟩ := Prod.mk.inj (Option.some.inj h)
    exact hafter
  · -- the unit is half of a pair, and another escape holds the other half
    split at h
    · obtain ⟨⟨second, after'⟩, hsecond, h⟩ := Option.bind_eq_some_iff.mp h
      have hafter' := codeUnit?_length hsecond
      split at h
      · obtain ⟨-, rfl⟩ := Prod.mk.inj (Option.some.inj h)
        simp only [List.length_cons] at hafter hafter' ⊢
        omega
      · simp at h
    · simp at h

/-- What follows an escape is shorter. -/
theorem unescape?_length {text rest : Text} {c : Char} (h : unescape? text = some (c, rest)) :
    rest.length < text.length := by
  unfold unescape? at h
  split at h
  case h_9 after => exact Nat.lt_succ_of_lt (unicodeEscape?_length h)
  case h_10 => simp at h
  all_goals
    obtain ⟨-, rfl⟩ := Prod.mk.inj (Option.some.inj h)
    exact Nat.lt_succ_self _

/-- **Reading a string** behind its opening quote, given as many steps as it may take. -/
def readCharacters? : Nat → Text → Option (Text × Text)
  | 0, _ => none
  | steps + 1, text =>
    match text with
    | [] => none
    | c :: rest =>
      if c = '"' then some ([], rest)
      else if c = '\\' then
        match unescape? rest with
        | some (c, rest) => (readCharacters? steps rest).map fun (text, rest) => (c :: text, rest)
        | none => none
      else if c.toNat < 32 then none
      else (readCharacters? steps rest).map fun (text, rest) => (c :: text, rest)

/-- **Reading a string** behind its opening quote. Every step takes a character. -/
def readString? (text : Text) : Option (Text × Text) :=
  readCharacters? text.length text

mutual

/-- **Reading a value**, given as many steps as it may take. -/
def readValue? : Nat → Text → Option (Json × Text)
  | 0, _ => none
  | steps + 1, text =>
    match skipBlank text with
    | 'n' :: 'u' :: 'l' :: 'l' :: rest => some (null, rest)
    | 't' :: 'r' :: 'u' :: 'e' :: rest => some (boolean true, rest)
    | 'f' :: 'a' :: 'l' :: 's' :: 'e' :: rest => some (boolean false, rest)
    | '"' :: rest => (readString? rest).map fun (text, rest) => (string text, rest)
    | '[' :: rest =>
      match skipBlank rest with
      | ']' :: rest => some (list [], rest)
      | first => (readItems? steps first).map fun (items, rest) => (list items, rest)
    | '\x7b' :: rest =>
      match skipBlank rest with
      | '\x7d' :: rest => some (object [], rest)
      | first => (readMembers? steps first).map fun (members, rest) => (object members, rest)
    | number => readNumber? number

/-- Reading the items of a list, from an item on. -/
def readItems? : Nat → Text → Option (List Json × Text)
  | 0, _ => none
  | steps + 1, text =>
    match readValue? steps text with
    | none => none
    | some (item, rest) =>
      match skipBlank rest with
      | ',' :: rest => (readItems? steps rest).map fun (items, rest) => (item :: items, rest)
      | ']' :: rest => some ([item], rest)
      | _ => none

/-- Reading the members of an object, from a name on. -/
def readMembers? : Nat → Text → Option (List (Text × Json) × Text)
  | 0, _ => none
  | steps + 1, text =>
    match skipBlank text with
    | '"' :: rest =>
      match readString? rest with
      | none => none
      | some (name, rest) =>
        match skipBlank rest with
        | ':' :: rest =>
          match readValue? steps rest with
          | none => none
          | some (value, rest) =>
            match skipBlank rest with
            | ',' :: rest =>
              (readMembers? steps rest).map fun (members, rest) => ((name, value) :: members, rest)
            | '\x7d' :: rest => some ([(name, value)], rest)
            | _ => none
        | _ => none
    | _ => none

end

/-- **Reading a JSON text.** Every two steps take a character, so twice the length suffices. -/
def parse? (text : Text) : Option Json :=
  match readValue? (2 * text.length + 1) text with
  | some (value, rest) => if (skipBlank rest).isEmpty then some value else none
  | none => none

end EnumCodegen.Json
