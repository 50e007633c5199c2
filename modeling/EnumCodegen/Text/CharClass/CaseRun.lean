/-!
# Runs of a case mapping

A case mapping outside ASCII is a list of runs. A run sends every `stride`-th code point from
`first` to `last` to the code point that lies as far behind `target`. The few characters whose
other case takes several characters stand in a list of their own.

## Main definitions

* `CaseRun`: a run
* `CaseRun.image?`: where a run sends a code point
-/

namespace EnumCodegen.CharClass

/-- **A run of a case mapping**: every `stride`-th code point from `first` to `last`. -/
structure CaseRun where
  first : Nat
  last : Nat
  stride : Nat
  target : Nat
  deriving Repr, DecidableEq

/-- The code point to which the run sends `n`, if it covers it. -/
def CaseRun.image? (run : CaseRun) (n : Nat) : Option Nat :=
  if run.first ≤ n ∧ n ≤ run.last ∧ (n - run.first) % run.stride = 0 then
    some (run.target + (n - run.first))
  else none

end EnumCodegen.CharClass
