/-
Finite binary64 numbers as exact data.

A number of the binary64 format is a sign and a magnitude `mantissa * 2 ^ exponent`
with a mantissa below `2 ^ 53`. Keeping these three parts, rather than the machine's
own floating point word, makes every operation plain arithmetic on natural numbers:
reading a numeral, printing the fewest digits and comparing two numbers can then be
reasoned about without any law of the machine.

Rounding is done in one place, `roundQuotient`: the exact value of an operation is a
quotient of two natural numbers, and the result is the format's number nearest to it,
an exact half going to the even mantissa. Products, quotients and conversions of
naturals are instances.
-/

set_option autoImplicit false

namespace ProtoSchema

/-- **A finite binary64 number.** Its magnitude is `mantissa * 2 ^ exponent`; the sign is
kept apart so that the two zeros differ. -/
structure Binary64 where
  negative : Bool
  mantissa : Nat
  exponent : Int
deriving DecidableEq, Repr, Inhabited

namespace Binary64

/-! ## The format -/

/-- The number of mantissa bits. -/
def precision : Nat := 53

/-- The exponent of the smallest magnitudes. -/
def minExponent : Int := -1074

/-- The exponent of the largest magnitudes. -/
def maxExponent : Int := 971

/-- Zero with the given sign. -/
def zero (negative : Bool) : Binary64 := ⟨negative, 0, minExponent⟩

/-- Whether the number is one of the two zeros. -/
def isZero (x : Binary64) : Bool := x.mantissa == 0

/-- The same magnitude with the given sign. -/
def withSign (x : Binary64) (negative : Bool) : Binary64 := { x with negative := negative }

/-- The magnitude as a quotient of two naturals, the second one positive. -/
def magnitude (x : Binary64) : Nat × Nat :=
  (x.mantissa * Nat.pow 2 x.exponent.toNat, Nat.pow 2 (-x.exponent).toNat)

/-! ## Rounding -/

/-- The quotient rounded to the nearest natural, a half to the even neighbour. -/
def roundHalfEven (num den : Nat) : Nat :=
  let q := num / den
  let twice := 2 * (num % den)
  if twice < den then q
  else if den < twice then q + 1
  else if q % 2 = 0 then q else q + 1

/-- The exponent of two just below `num / den`, for positive arguments:
`2 ^ e ≤ num / den < 2 ^ (e + 1)`. -/
def floorLog2 (num den : Nat) : Int :=
  let e : Int := (num.log2 : Int) - den.log2
  if den * Nat.pow 2 e.toNat ≤ num * Nat.pow 2 (-e).toNat then e else e - 1

/-- **The nearest number of the format.** `none` when the magnitude rounds beyond the
largest number. -/
def roundQuotient (negative : Bool) (num den : Nat) : Option Binary64 :=
  if num = 0 then some (zero negative)
  else
    let q := max (floorLog2 num den - ((precision : Int) - 1)) minExponent
    let m := roundHalfEven (num * Nat.pow 2 (-q).toNat) (den * Nat.pow 2 q.toNat)
    let (m, q) := if m = Nat.pow 2 precision then (Nat.pow 2 (precision - 1), q + 1) else (m, q)
    if maxExponent < q then none else some ⟨negative, m, q⟩

/-- The nearest number to a natural. -/
def ofNat (n : Nat) : Option Binary64 := roundQuotient false n 1

/-- The nearest number to the product of the magnitudes; the sign is that of `x`. -/
def mulMagnitude (x y : Binary64) : Option Binary64 :=
  roundQuotient x.negative (x.magnitude.1 * y.magnitude.1) (x.magnitude.2 * y.magnitude.2)

/-- The nearest number to the quotient of the magnitudes; the sign is that of `x`. -/
def divMagnitude (x y : Binary64) : Option Binary64 :=
  roundQuotient x.negative (x.magnitude.1 * y.magnitude.2) (x.magnitude.2 * y.magnitude.1)

/-! ## Integers among the numbers -/

/-- The natural number that the magnitude is, if it is one. -/
def magnitudeNat? (x : Binary64) : Option Nat :=
  let (num, den) := x.magnitude
  if num % den = 0 then some (num / den) else none

/-! ## Powers of ten and decimal numerals -/

/-- The largest power of ten that the format has is `10 ^ 308`. -/
def maxPowerOfTen : Nat := 308

/-- The number nearest to `10 ^ k`, for `k ≤ maxPowerOfTen`. -/
def powerOfTen (k : Nat) : Binary64 := (ofNat (Nat.pow 10 k)).getD (zero false)

/-- The steps of `ofDecimal` towards a negative power of ten: while the power is out of
the table, divide by the largest one first. A number that has become zero stays so. -/
def divPowerOfTen (x : Binary64) (k : Nat) : Nat → Binary64
  | 0 => x
  | fuel + 1 =>
    if k ≤ maxPowerOfTen then (x.divMagnitude (powerOfTen k)).getD x
    else if x.isZero then x
    else
      divPowerOfTen ((x.divMagnitude (powerOfTen maxPowerOfTen)).getD x) (k - maxPowerOfTen) fuel

/-- **Reading a numeral.** The value of `significand * 10 ^ exponent`: the significand is
rounded first and is then multiplied with or divided by a rounded power of ten, so that
long numerals may differ from the nearest number in the last bit. `none` when the result
is beyond the largest number. Two divisions by the largest power already reach zero, so
three steps suffice. -/
def ofDecimal (negative : Bool) (significand : Nat) (exponent : Int) : Option Binary64 := do
  let x ← ofNat significand
  let y ←
    if 0 ≤ exponent then
      if exponent.toNat ≤ maxPowerOfTen then x.mulMagnitude (powerOfTen exponent.toNat)
      else if x.isZero then some x
      else none
    else some (x.divPowerOfTen (-exponent).toNat 4)
  return y.withSign negative

end Binary64

end ProtoSchema
