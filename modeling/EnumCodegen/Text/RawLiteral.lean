import EnumCodegen.Text.Basic

/-!
# Raw literals

A raw literal holds a text as it is, between fences of number signs that are long enough to tell its
closing quote from every quote of the text.

## Main definitions

* `Text.fenceSize`: the number of signs in the fence
* `Text.rawLiteral`: the literal of a text
* `Text.readRawLiteral?`: reading a literal back
-/

namespace EnumCodegen.Text

/-- The number of number signs at the start of a text. -/
def signs (text : Text) : Nat :=
  (text.takeWhile (· = '#')).length

/-- The most number signs that follow a quote in the text. -/
def mostSigns : Text → Nat
  | [] => 0
  | c :: rest => if c = '"' then max (signs rest) (mostSigns rest) else mostSigns rest

/-- **The size of the fence** around a text: at least one sign, and more than follow any quote in
it. -/
def fenceSize (text : Text) : Nat :=
  mostSigns text + 1

/-- A fence of a given size. -/
def fence (size : Nat) : Text :=
  List.replicate size '#'

/-- **The raw literal** of a text. -/
def rawLiteral (text : Text) : Text :=
  let signs := fence (fenceSize text)
  'r' :: signs ++ '"' :: text ++ '"' :: signs

/-- The text up to the first quote that the fence follows, and what follows the fence. -/
def untilFence? (size : Nat) : Text → Option (Text × Text)
  | [] => none
  | c :: rest =>
    match (fence size).isPrefixOf? rest with
    | some after =>
      if c = '"' then some ([], after)
      else (untilFence? size rest).map fun (text, after) => (c :: text, after)
    | none => (untilFence? size rest).map fun (text, after) => (c :: text, after)

/-- **Reading a raw literal**: its text, and what follows it. -/
def readRawLiteral? : Text → Option (Text × Text)
  | 'r' :: rest =>
    match rest.dropWhile (· = '#') with
    | '"' :: content => untilFence? (signs rest) content
    | _ => none
  | _ => none

end EnumCodegen.Text
