import EnumCodegen.Text.Basic

/-!
# Block strings

A block string stands between triple quotes and may run over several lines. Any character may stand
in it. A backslash before a triple quote makes the quotes a part of the string; every other backslash
stands for itself. The value of the string is what is written, without the indentation that its lines
share and without blank lines at either end. The indentation of the first line, which stands behind
the opening quotes, does not count.

## Main definitions

* `GraphQL.isLineEnd`, `GraphQL.isBlank`: line ends and the characters of blank lines
* `GraphQL.readBlock?`: reading what is written in a block string
* `GraphQL.blockLines`: the lines of what is written
* `GraphQL.blockValue`: the value of a block string
-/

namespace EnumCodegen.GraphQL

/-- **Line ends**: a line feed and a carriage return, which may stand together. -/
def isLineEnd (c : Char) : Bool :=
  c = '\n' || c = '\r'

/-- **Blanks**: a space and a tab. -/
def isBlank (c : Char) : Bool :=
  c = ' ' || c = '\t'

/-- Whether a line consists of blanks. -/
def isBlankLine (line : Text) : Bool :=
  line.all isBlank

/-- **Reading a block string** behind its opening quotes: what is written in it, and what follows
its closing quotes. -/
def readBlock? : Text → Option (Text × Text)
  | '"' :: '"' :: '"' :: rest => some ([], rest)
  | '\\' :: '"' :: '"' :: '"' :: rest =>
    (readBlock? rest).map fun (written, after) => ('"' :: '"' :: '"' :: written, after)
  | c :: rest => (readBlock? rest).map fun (written, after) => (c :: written, after)
  | [] => none

/-- **The lines** of a text, without their ends. -/
def blockLines : Text → List Text
  | [] => [[]]
  | '\r' :: '\n' :: rest => [] :: blockLines rest
  | c :: rest =>
    if isLineEnd c then [] :: blockLines rest else (blockLines rest).modifyHead (c :: ·)

/-- The blanks at the start of a line. -/
def indentation (line : Text) : Nat :=
  (line.takeWhile isBlank).length

/-- **The indentation that lines share**: the least of all lines that are not blank, but for the
first. -/
def commonIndentation (lines : List Text) : Nat :=
  ((lines.tail.filter (!isBlankLine ·)).map indentation).min?.getD 0

/-- Lines without the indentation they share. -/
def unindented (lines : List Text) : List Text :=
  lines.take 1 ++ lines.tail.map (·.drop (commonIndentation lines))

/-- Lines without the blank ones at either end. -/
def withoutBlankEdges (lines : List Text) : List Text :=
  ((lines.dropWhile isBlankLine).reverse.dropWhile isBlankLine).reverse

/-- **The value of a block string**, from what is written in it. -/
def blockValue (written : Text) : Text :=
  ['\n'].intercalate (withoutBlankEdges (unindented (blockLines written)))

/-- What is made of a part that was read does not change what follows it. -/
theorem exists_of_map_eq_some {α β : Type} {make : α × Text → β × Text} {read? : Option (α × Text)}
    {made : β} {rest : Text} (h : read?.map make = some (made, rest))
    (hmake : ∀ read, (make read).2 = read.2) : ∃ part, read? = some (part, rest) := by
  obtain ⟨⟨part, after⟩, hread, heq⟩ := Option.map_eq_some_iff.mp h
  have hrest : (make (part, after)).2 = after := hmake (part, after)
  rw [heq] at hrest
  exact ⟨part, by rw [hread, ← hrest]⟩

/-- What follows a block string is shorter. -/
theorem readBlock?_length {text written rest : Text} (h : readBlock? text = some (written, rest)) :
    rest.length < text.length := by
  fun_induction readBlock? text generalizing written with
  | case1 after =>
    obtain ⟨-, rfl⟩ := Prod.mk.inj (Option.some.inj h)
    simp only [List.length_cons]
    omega
  | case2 after ih =>
    obtain ⟨written', hread⟩ := exists_of_map_eq_some h fun _ => rfl
    have hlt := ih hread
    simp only [List.length_cons]
    omega
  | case3 c after _ _ ih =>
    obtain ⟨written', hread⟩ := exists_of_map_eq_some h fun _ => rfl
    exact Nat.lt_succ_of_lt (ih hread)
  | case4 => simp at h

end EnumCodegen.GraphQL
