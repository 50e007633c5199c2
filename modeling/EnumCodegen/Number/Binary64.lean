import EnumCodegen.Text.Basic

/-!
# Double-precision numbers

A finite double-precision number is a sign and a magnitude `mantissa · 2 ^ exponent` with at most 53
bits of mantissa. Numbers are made by rounding a quotient of naturals to the nearest magnitude, a tie
going to the even mantissa; the arithmetic is exact throughout.

## Main definitions

* `Binary64`: a finite number
* `Binary64.ofQuotient?`: rounding a quotient
* `Binary64.mul?`, `Binary64.div?`: rounded product and quotient of magnitudes
-/

namespace EnumCodegen

/-- **A finite double-precision number**: a sign, and the magnitude `mantissa · 2 ^ exponent`. -/
structure Binary64 where
  negative : Bool
  mantissa : Nat
  exponent : Int
  deriving Repr, DecidableEq

namespace Binary64

/-- The least exponent, which the numbers nearest to zero have. -/
def leastExponent : Int :=
  -1074

/-- The greatest exponent. -/
def greatestExponent : Int :=
  971

/-- The bound of mantissas, `2 ^ 53`. -/
def mantissaBound : Nat :=
  9007199254740992

/-- Zero, without a sign. -/
def zero : Binary64 :=
  ⟨false, 0, leastExponent⟩

/-- The numerator and denominator of `n / d` measured in units of `2 ^ e`. -/
def scaled (n d : Nat) (e : Int) : Nat × Nat :=
  if e < 0 then (n <<< (-e).toNat, d) else (n, d <<< e.toNat)

/-- The natural number nearest to `n / d`; a tie goes to the even one. -/
def nearest (n d : Nat) : Nat :=
  let q := n / d
  let r := n % d
  if 2 * r < d then q else if d < 2 * r then q + 1 else q + q % 2

/-- **Rounding a quotient** of naturals, if it is not too large. -/
def ofQuotient? (n d : Nat) : Option Binary64 :=
  if n = 0 then some zero
  else
    let guess := max ((n.log2 : Int) - d.log2 - 53) leastExponent
    let (n', d') := scaled n d guess
    let exponent := if n' / d' < mantissaBound then guess else guess + 1
    let (n', d') := scaled n d exponent
    let mantissa := nearest n' d'
    let rounded : Binary64 :=
      if mantissa < mantissaBound then ⟨false, mantissa, exponent⟩
      else ⟨false, mantissa / 2, exponent + 1⟩
    if rounded.exponent ≤ greatestExponent then some rounded else none

/-- The magnitude as a quotient of naturals. -/
def quotient (x : Binary64) : Nat × Nat :=
  if x.exponent < 0 then (x.mantissa, 1 <<< (-x.exponent).toNat)
  else (x.mantissa <<< x.exponent.toNat, 1)

/-- **The rounded product** of magnitudes. -/
def mul? (x y : Binary64) : Option Binary64 :=
  ofQuotient? (x.quotient.1 * y.quotient.1) (x.quotient.2 * y.quotient.2)

/-- **The rounded quotient** of magnitudes; the divisor is not zero. -/
def div? (x y : Binary64) : Option Binary64 :=
  ofQuotient? (x.quotient.1 * y.quotient.2) (x.quotient.2 * y.quotient.1)

end Binary64

end EnumCodegen
