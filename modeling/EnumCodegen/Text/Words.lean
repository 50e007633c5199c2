import EnumCodegen.Text.Basic
import EnumCodegen.Text.CharClass

/-!
# The words of a name

A name is cut into words first at every character that is neither letter nor number, and then, in
each piece, where the case changes: behind a lower-case character before an upper-case one
(`fooBar`), and before the last capital of a run of capitals that a lower-case character follows
(`HTTPStatus`). A character without case continues the case before it.

## Main definitions

* `Text.CaseTrend`: what the characters of the current word say about its case
* `Text.splitAtCase`: the cut of one piece where the case changes
* `Text.words`: the words of a name

## Main results

* `Text.flatten_splitAtCase`: the cut loses no character
-/

namespace EnumCodegen.Text

open CharClass

/-- **The case trend** of the word read so far: that of its last character with case, or none at
its start. -/
inductive CaseTrend where
  | start
  | lower
  | upper
  deriving Repr, DecidableEq

/-- The trend behind one more character. -/
def CaseTrend.after (trend : CaseTrend) (c : Char) : CaseTrend :=
  if isLowercase c then .lower else if isUppercase c then .upper else trend

/-- **The cut at case changes.** The first entry of the result continues the word whose trend is
given; it is empty when that word has just ended. -/
def splitAtCase (trend : CaseTrend) : Text → List Text
  | [] => []
  | [c] => [[c]]
  | c :: d :: rest =>
    if trend.after c = .lower ∧ isUppercase d then
      [c] :: splitAtCase .start (d :: rest)
    else if trend = .upper ∧ isUppercase c ∧ isLowercase d then
      [] :: (splitAtCase .start (d :: rest)).modifyHead (c :: ·)
    else
      (splitAtCase (trend.after c) (d :: rest)).modifyHead (c :: ·)

/-- **The words of a name.** -/
def words (name : Text) : List Text :=
  (name.splitOnP (!isAlphanumeric ·)).flatMap (splitAtCase .start)

theorem splitAtCase_ne_nil (trend : CaseTrend) (c : Char) (rest : Text) :
    splitAtCase trend (c :: rest) ≠ [] := by
  induction rest generalizing trend c with
  | nil => simp [splitAtCase]
  | cons d rest ih =>
    unfold splitAtCase
    split
    · simp
    · split
      · simp
      · intro h
        have := congrArg List.length h
        simp [ih] at this

private theorem flatten_modifyHead_cons (c : Char) {parts : List Text} (h : parts ≠ []) :
    (parts.modifyHead (c :: ·)).flatten = c :: parts.flatten := by
  cases parts with
  | nil => exact absurd rfl h
  | cons part parts => simp

/-- The cut loses no character. -/
theorem flatten_splitAtCase (trend : CaseTrend) (piece : Text) :
    (splitAtCase trend piece).flatten = piece := by
  fun_induction splitAtCase trend piece with
  | case1 => rfl
  | case2 => rfl
  | case3 trend c d rest _ ih => simp [ih]
  | case4 trend c d rest _ _ ih =>
    simp [flatten_modifyHead_cons c (splitAtCase_ne_nil .start d rest), ih]
  | case5 trend c d rest _ _ ih =>
    simp [flatten_modifyHead_cons c (splitAtCase_ne_nil _ d rest), ih]

end EnumCodegen.Text
