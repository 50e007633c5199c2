import EnumCodegen.Json.Value

/-!
# Numbers in JSON texts

A number without fraction and exponent that fits 64 bits is an integer; minus zero does not fit.
Every other number is read as a significand of at most 64 bits and a power of ten: digits that the
significand cannot take are dropped. The double-precision number is then the rounded product or
quotient of the rounded significand and the rounded power of ten.

## Main definitions

* `Json.readNumber?`: reading a number
-/

namespace EnumCodegen.Json

/-- The bound of the significand, `2 ^ 64`. -/
def significandBound : Nat :=
  18446744073709551616

/-- The digits at the start of a text, as their values, and the rest. -/
def readDigits (text : Text) : List Nat × Text :=
  ((text.takeWhile (·.isDigit)).map (·.toNat - '0'.toNat), text.dropWhile (·.isDigit))

/-- **Taking digits into a significand**: the significand, and the count of digits it could take.
The first digit it cannot take ends it. -/
def takeDigits (significand : Nat) : List Nat → Nat × Nat
  | [] => (significand, 0)
  | digit :: rest =>
    if significand * 10 + digit < significandBound then
      let (result, count) := takeDigits (significand * 10 + digit) rest
      (result, count + 1)
    else (significand, 0)

/-- **A significand times a power of ten**, rounded at every step. Small results may need two
divisions, for no power of ten beyond the 308th is at hand. -/
def scaleByTen? (significand : Nat) (power : Int) : Option Binary64 := do
  let x ← Binary64.ofQuotient? significand 1
  if significand = 0 then return x
  if 0 ≤ power then
    if 308 < power then none
    else x.mul? (← Binary64.ofQuotient? (Nat.pow 10 power.toNat) 1)
  else
    let places := (-power).toNat
    if places ≤ 308 then x.div? (← Binary64.ofQuotient? (Nat.pow 10 places) 1)
    else
      let smaller ← x.div? (← Binary64.ofQuotient? (Nat.pow 10 308) 1)
      if places ≤ 616 then smaller.div? (← Binary64.ofQuotient? (Nat.pow 10 (places - 308)) 1)
      else return Binary64.zero

/-- The exponent behind its letter, and the rest. -/
def readExponent? (text : Text) : Option (Int × Text) :=
  let (negative, digitsFrom) : Bool × Text :=
    match text with
    | '-' :: rest => (true, rest)
    | '+' :: rest => (false, rest)
    | _ => (false, text)
  match readDigits digitsFrom with
  | ([], _) => none
  | (digits, rest) =>
    let magnitude : Nat := digits.foldl (fun n digit => n * 10 + digit) 0
    some (if negative then -(magnitude : Int) else magnitude, rest)

/-- A number with the given sign as a JSON value. -/
def float? (negative : Bool) (significand : Nat) (power : Int) : Option Json :=
  (scaleByTen? significand power).map fun x => float { x with negative }

/-- **Reading a number**, and what follows it. -/
def readNumber? (text : Text) : Option (Json × Text) := do
  let (negative, unsigned) : Bool × Text :=
    match text with
    | '-' :: rest => (true, rest)
    | _ => (false, text)
  let (whole, rest) := readDigits unsigned
  if whole.isEmpty || (whole.length ≠ 1 && whole.head? = some 0) then none
  let (significand, taken) := takeDigits 0 whole
  let dropped := whole.length - taken
  let (significand, power, plain, rest) : Nat × Int × Bool × Text ←
    match rest with
    | '.' :: fraction =>
      match readDigits fraction with
      | ([], _) => none
      | (digits, rest) =>
        if dropped = 0 then
          let (significand, taken) := takeDigits significand digits
          some (significand, -(taken : Int), false, rest)
        else
          let (significand, taken) := takeDigits significand digits
          some (significand, (dropped : Int) - taken, false, rest)
    | _ => some (significand, (dropped : Int), dropped = 0, rest)
  match rest with
  | c :: exponentFrom =>
    if c = 'e' ∨ c = 'E' then
      let (exponent, rest) ← readExponent? exponentFrom
      return (← float? negative significand (power + exponent), rest)
    else finish negative significand power plain rest
  | [] => finish negative significand power plain rest
where
  /-- A number without exponent. -/
  finish (negative : Bool) (significand : Nat) (power : Int) (plain : Bool) (rest : Text) :
      Option (Json × Text) :=
    if plain && !negative then some (integer significand, rest)
    else if plain && 0 < significand && 2 * significand ≤ significandBound then
      some (integer (-(significand : Int)), rest)
    else (float? negative significand power).map (·, rest)

end EnumCodegen.Json
