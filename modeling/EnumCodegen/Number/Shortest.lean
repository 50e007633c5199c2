import EnumCodegen.Number.Binary64

/-!
# The shortest decimal of a double-precision number

A number is written with the fewest digits that still tell it from every other number: of the decimals
with so few digits that round to it, the nearest. It is written in full, without an exponent, and with
at least one digit behind the point.

## Main definitions

* `Binary64.Decimal`: digits and a power of ten
* `Binary64.shortest`: the shortest decimal of a number
* `Binary64.written`: the written form of a number
-/

namespace EnumCodegen.Binary64

/-- **A decimal**: the number `digits · 10 ^ power`. -/
structure Decimal where
  digits : Nat
  power : Int
  deriving Repr, DecidableEq

/-- The bounds of the reals that round to a magnitude, in units of `2 ^ (exponent - 2)`. Below the
least mantissa of an exponent the numbers lie twice as close. -/
def bounds (x : Binary64) : Nat × Nat :=
  let low := if 2 * x.mantissa = mantissaBound ∧ leastExponent < x.exponent then 1 else 2
  (4 * x.mantissa - low, 4 * x.mantissa + 2)

/-- Whether a decimal rounds to the number. The bounds themselves do if the mantissa is even. -/
def roundsTo (x : Binary64) (decimal : Decimal) : Bool :=
  let (low, high) := bounds x
  let e := x.exponent - 2
  let n := (decimal.digits * Nat.pow 10 decimal.power.toNat) <<< (-e).toNat
  let unit := Nat.pow 10 (-decimal.power).toNat <<< e.toNat
  if x.mantissa % 2 = 0 then low * unit ≤ n && n ≤ high * unit
  else low * unit < n && n < high * unit

/-- The neighbour of the number on the grid of multiples of a power of ten, if it rounds to the
number: the nearest if both do, and the even one if both are as near. -/
def onGrid? (x : Binary64) (power : Int) : Option Decimal :=
  let n := x.quotient.1 * Nat.pow 10 (-power).toNat
  let d := x.quotient.2 * Nat.pow 10 power.toNat
  let below : Decimal := ⟨n / d, power⟩
  let above : Decimal := ⟨n / d + 1, power⟩
  match roundsTo x below, roundsTo x above with
  | true, true => some ⟨nearest n d, power⟩
  | true, false => some below
  | false, true => some above
  | false, false => none

/-- The first decimal on the given count of grids, each ten times finer than the one before. -/
def firstOnGrid? (x : Binary64) (power : Int) : Nat → Option Decimal
  | 0 => none
  | count + 1 =>
    match onGrid? x power with
    | some decimal => some decimal
    | none => firstOnGrid? x (power - 1) count

/-- A power of ten above which no decimal rounds to the number. -/
def coarsestPower (x : Binary64) : Int :=
  (((x.mantissa.log2 : Int) + 1 + x.exponent) * 30103) / 100000 + 1

/-- **The shortest decimal** of a number. Grids 20 digits finer than the first always suffice. -/
def shortest (x : Binary64) : Decimal :=
  if x.mantissa = 0 then ⟨0, 0⟩
  else (firstOnGrid? x (coarsestPower x) 22).getD ⟨0, 0⟩

/-- The written form of a decimal, in full. -/
def Decimal.written (decimal : Decimal) : Text :=
  if 0 ≤ decimal.power then
    Text.numeral decimal.digits ++ List.replicate decimal.power.toNat '0' ++ ".0"
  else
    let places := (-decimal.power).toNat
    let digits := Text.numeral decimal.digits
    let padded := List.replicate (places + 1 - digits.length) '0' ++ digits
    padded.take (padded.length - places) ++ '.' :: padded.drop (padded.length - places)

/-- **The written form of a number.** -/
def written (x : Binary64) : Text :=
  (if x.negative then ['-'] else []) ++ x.shortest.written

end EnumCodegen.Binary64
