import EnumCodegen.Proofs.Code.Reading

/-!
# Reading trait implementations

A trait implementation is told from its code by its head and by the arms of its two matches. What it
does then follows from the arms: the first arm for a text decides. Whatever the names in it are, the
written form of an implementation reads back as that implementation, and nothing of what follows it
is taken in.

## Main definitions

* `TraitImpl.read?`: reading a trait implementation
* `TraitImpl.wireNameOf`, `TraitImpl.declaredNameOf?`: what its two functions answer

## Main results

* `TraitImpl.read?_lines`: an implementation reads back from its written form
-/

namespace EnumCodegen.TraitImpl

open Code
open Text (isBlank)

/-- What ends the path of a type in the head of an implementation. -/
def endsPath (c : Char) : Bool :=
  isBlank c ∨ c = '\x7b'

/-- The path of a type that stands next, behind blanks, and what follows it from its first character
that is no blank. -/
def readPath (code : Text) : Text × Text :=
  let code := skipBlanks code
  (code.takeWhile (!endsPath ·), skipBlanks (code.dropWhile (!endsPath ·)))

/-- The arms by which declared names become wire names. Where every name stays as it is, no match is
needed. -/
def readToWire? (code : Text) : Option (List Arm × Text) :=
  match after? "self.as_str_name()" code with
  | some rest => some ([], rest)
  -- a match names the same function, but behind its keyword
  | none => readMatch? "match self.as_str_name()" "other => other," "\x7d" code

/-- The function that gives wire names, told by its arms. -/
def readNameMethod? (format : TextFormat) (code : Text) : Option (List Arm × Text) := do
  let code ← afterAll? ["fn", format.nameMethod, "(&self) -> &'static str", "\x7b"] code
  let (arms, code) ← readToWire? code
  let code ← after? "\x7d" code
  return (arms, code)

/-- The function that finds values, told by its arms. -/
def readOfNameFunction? (format : TextFormat) (code : Text) : Option (List Arm × Text) := do
  let code ← afterAll? ["fn", format.ofNameFunction,
    "(name: &str) -> ::core::option::Option<Self>", "\x7b"] code
  let (arms, code) ← readMatch? "let declared = match name"
    "_ => return ::core::option::Option::None," "\x7d;" code
  let code ← afterAll? ["Self::from_str_name(declared)", "\x7d"] code
  return (arms, code)

/-- **Reading a trait implementation** for a format: the implementation, and what follows it. -/
def read? (format : TextFormat) (code : Text) : Option (TraitImpl × Text) := do
  let code ← afterAll? ["impl ::enumwire_runtime::", format.traitName, "for"] code
  let (typePath, code) := readPath code
  let code ← afterAll? ["\x7b", "const ENUM_NAME: &'static str ="] code
  let (enumName, code) ← readLiteral? code
  let code ← after? ";" code
  -- the functions stand in this order, each behind an empty line
  let (toWire, code) ← readNameMethod? format code
  let (ofWire, code) ← readOfNameFunction? format code
  let code ← after? "\x7d" code
  return (⟨format, typePath, enumName, toWire, ofWire⟩, code)

/-- **The wire name** that an implementation gives for a declared name: the output of the first arm
for it, else the name itself. -/
def wireNameOf (impl : TraitImpl) (name : Text) : Text :=
  ((impl.toWire.find? (·.input = name)).map (·.output)).getD name

/-- **The declared name** that an implementation finds for a text: the output of the first arm for
it, if there is one. -/
def declaredNameOf? (impl : TraitImpl) (input : Text) : Option Text :=
  (impl.ofWire.find? (·.input = input)).map (·.output)

/-! ## Implementations -/

/-- A path that holds nothing that ends it reads back. -/
theorem readPath_append {path : Text} (hpath : ∀ c ∈ path, endsPath c = false) (code : Text) :
    readPath (path ++ (" \x7b".toList ++ code)) = (path, '\x7b' :: code) := by
  cases path with
  | nil => rfl
  | cons c path =>
    have hc : isBlank c = false := by
      have := hpath c (by simp)
      simp_all [endsPath]
    have hall : ∀ d ∈ c :: path, (!endsPath d) = true := by
      intro d hd
      rw [hpath d hd]
      rfl
    rw [readPath, List.cons_append, skipBlanks_solid hc, ← List.cons_append,
      List.takeWhile_append_of_pos hall, List.dropWhile_append_of_pos hall]
    have htake : (" \x7b".toList ++ code).takeWhile (!endsPath ·) = [] := rfl
    rw [htake, List.append_nil]
    rfl

/-- The lines of the function that gives wire names. -/
def nameMethodLines (format : TextFormat) (arms : List Arm) : List Text :=
  block ("fn " ++ format.nameMethod ++ "(&self) -> &'static str")
    (if arms.isEmpty then ["self.as_str_name()"]
      else
        block "match self.as_str_name()" (arms.map armLine ++ ["other => other,".toList]) "\x7d")
    "\x7d"

/-- The lines of the function that finds values. -/
def ofNameFunctionLines (format : TextFormat) (arms : List Arm) : List Text :=
  block ("fn " ++ format.ofNameFunction ++ "(name: &str) -> ::core::option::Option<Self>")
    (block "let declared = match name"
      (arms.map armLine ++ ["_ => return ::core::option::Option::None,".toList]) "\x7d;" ++
      ["Self::from_str_name(declared)".toList])
    "\x7d"

/-- The body of the function that gives wire names reads back. -/
theorem readToWire?_lines (arms : List Arm) (code : Text) :
    readToWire? ('\n' :: (text ((if arms.isEmpty then ["self.as_str_name()".toList]
      else block "match self.as_str_name()" (arms.map armLine ++ ["other => other,".toList])
        "\x7d").map (indented ∘ indented)) ++ code)) = some (arms, '\n' :: code) := by
  cases arms with
  | nil => rfl
  | cons arm arms =>
    rw [readToWire?]
    have hnone : after? "self.as_str_name()" ('\n' :: (text ((block "match self.as_str_name()"
        ((arm :: arms).map armLine ++ ["other => other,".toList]) "\x7d").map
          (indented ∘ indented)) ++ code)) = none := rfl
    rw [if_neg (by simp), hnone]
    refine (readMatch?_newline _).trans ?_
    exact readMatch?_block skipBlanks_indented_indented rfl rfl (by decide) rfl (arm :: arms) code

@[simp] theorem readNameMethod?_newline (format : TextFormat) (code : Text) :
    readNameMethod? format ('\n' :: code) = readNameMethod? format code := rfl

@[simp] theorem readOfNameFunction?_newline (format : TextFormat) (code : Text) :
    readOfNameFunction? format ('\n' :: code) = readOfNameFunction? format code := rfl

/-- **The function that gives wire names** reads back. -/
theorem readNameMethod?_lines (format : TextFormat) (arms : List Arm) (code : Text) :
    readNameMethod? format (text ((nameMethodLines format arms).map indented) ++ code) =
      some (arms, '\n' :: code) := by
  have hhead (code : Text) : afterAll? ["fn", format.nameMethod, "(&self) -> &'static str", "\x7b"]
      (indented ("fn " ++ format.nameMethod ++ "(&self) -> &'static str" ++ " \x7b") ++ code) =
        some code := by
    cases format <;> rfl
  have hclose : after? "\x7d" ('\n' :: (indented "\x7d" ++ '\n' :: code)) = some ('\n' :: code) :=
    rfl
  rw [nameMethodLines, text_block_indented, readNameMethod?, hhead]
  simp only [Option.bind_eq_bind, Option.bind_some, readToWire?_lines, hclose]
  rfl

/-- **The function that finds values** reads back. -/
theorem readOfNameFunction?_lines (format : TextFormat) (arms : List Arm) (code : Text) :
    readOfNameFunction? format (text ((ofNameFunctionLines format arms).map indented) ++ code) =
      some (arms, '\n' :: code) := by
  have hhead (code : Text) : afterAll? ["fn", format.ofNameFunction,
      "(name: &str) -> ::core::option::Option<Self>", "\x7b"]
      (indented ("fn " ++ format.ofNameFunction ++
        "(name: &str) -> ::core::option::Option<Self>" ++ " \x7b") ++ code) = some code := by
    cases format <;> rfl
  have hmatch (code : Text) : readMatch? "let declared = match name"
      "_ => return ::core::option::Option::None," "\x7d;"
      ('\n' :: (text ((block "let declared = match name" (arms.map armLine ++
        ["_ => return ::core::option::Option::None,".toList]) "\x7d;").map
          (indented ∘ indented)) ++ code)) = some (arms, '\n' :: code) :=
    (readMatch?_newline _).trans
      (readMatch?_block skipBlanks_indented_indented rfl rfl (by decide) rfl arms code)
  have hclose : afterAll? ["Self::from_str_name(declared)", "\x7d"]
      ('\n' :: (text (["Self::from_str_name(declared)".toList].map (indented ∘ indented)) ++
        (indented "\x7d" ++ '\n' :: code))) = some ('\n' :: code) := rfl
  rw [ofNameFunctionLines, text_block_indented, readOfNameFunction?, hhead]
  simp only [Option.bind_eq_bind, Option.bind_some, List.map_append, text_append,
    List.append_assoc, hmatch, hclose]
  rfl

/-- **An implementation reads back** from its written form, whatever follows. -/
theorem read?_lines (impl : TraitImpl) (hpath : ∀ c ∈ impl.typePath, endsPath c = false)
    (code : Text) :
    read? impl.format (text impl.lines ++ code) = some (impl, '\n' :: code) := by
  obtain ⟨format, typePath, enumName, toWire, ofWire⟩ := impl
  -- The written form, cut into the parts that the reader takes one by one.
  have hlines : text (lines ⟨format, typePath, enumName, toWire, ofWire⟩) ++ code =
      "impl ::enumwire_runtime::".toList ++ (format.traitName ++ (" for ".toList ++ (typePath ++
        (" \x7b".toList ++ '\n' :: (indented ("const ENUM_NAME: &'static str = ".toList ++
          (enumName.quoted ++ ";".toList)) ++ '\n' :: '\n' ::
            (text ((nameMethodLines format toWire).map indented) ++ '\n' ::
              (text ((ofNameFunctionLines format ofWire).map indented) ++
                '\x7d' :: '\n' :: code))))))) := by
    simp only [lines, block, nameMethodLines, ofNameFunctionLines, List.map_cons, List.map_append,
      List.map_nil, text_append, text_cons, text_nil, List.append_assoc, List.cons_append,
      List.nil_append, indented_nil]
    rfl
  -- What it finds in each part, whatever stands behind that.
  have hhead (code : Text) : afterAll? ["impl ::enumwire_runtime::", format.traitName, "for"]
      ("impl ::enumwire_runtime::".toList ++ (format.traitName ++ (" for ".toList ++ code))) =
        some (' ' :: code) := by
    cases format <;> rfl
  have htype (code : Text) :
      readPath (' ' :: (typePath ++ (" \x7b".toList ++ code))) = (typePath, '\x7b' :: code) :=
    readPath_append hpath code
  have hconst (code : Text) : afterAll? ["\x7b", "const ENUM_NAME: &'static str ="]
      ('\x7b' :: '\n' :: (indented ("const ENUM_NAME: &'static str = ".toList ++
        (enumName.quoted ++ ";".toList)) ++ code)) =
          some (' ' :: (enumName.quoted ++ ";".toList ++ code)) := rfl
  have hname (code : Text) : readLiteral? (' ' :: (enumName.quoted ++ ";".toList ++ code)) =
      some (enumName, ';' :: code) := by
    rw [List.append_assoc]
    exact readLiteral?_quoted enumName (';' :: code)
  have hsemicolon (code : Text) : after? ";" (';' :: '\n' :: '\n' :: code) =
      some ('\n' :: '\n' :: code) := rfl
  have hclose : after? "\x7d" ('\n' :: '\x7d' :: '\n' :: code) = some ('\n' :: code) := rfl
  rw [hlines]
  simp only [read?, hhead, htype, hconst, hname, hsemicolon, readNameMethod?_newline,
    readNameMethod?_lines, readOfNameFunction?_newline, readOfNameFunction?_lines, hclose,
    Option.bind_eq_bind, Option.bind_some]
  rfl

/-- Blank lines before an implementation are passed over. -/
@[simp] theorem read?_newline (format : TextFormat) (code : Text) :
    read? format ('\n' :: code) = read? format code := rfl

end EnumCodegen.TraitImpl
