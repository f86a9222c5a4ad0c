/-
The fewest decimal digits that determine a binary64 number.

A decimal determines the number `x` when it lies in the interval of reals that round to
`x`. The interval reaches half way to each neighbour, and its ends belong to it exactly
when the mantissa is even. For one digit, two digits and so on, the two multiples of the
digit's unit around `x` are tried; the first length with a hit is the fewest, since a grid
that meets the interval at all meets it next to `x`.
-/
import ProtoSchema.Number.Binary64

set_option autoImplicit false

namespace ProtoSchema

/-- **A positive decimal** `digits * 10 ^ scale`. -/
structure Decimal where
  digits : Nat
  scale : Int
deriving DecidableEq, Repr, Inhabited

namespace Decimal

/-- The digits as characters, most significant first. -/
def digitChars (d : Decimal) : List Char := Nat.toDigits 10 d.digits

/-- The exponent of ten of the first digit. -/
def leadExponent (d : Decimal) : Int := d.scale + (d.digitChars.length - 1 : Nat)

/-- The decimal without trailing zeros among its digits; `fuel` bounds their number. -/
def stripZeros (d : Decimal) : Nat → Decimal
  | 0 => d
  | fuel + 1 =>
    if d.digits ≠ 0 ∧ d.digits % 10 = 0 then
      stripZeros ⟨d.digits / 10, d.scale + 1⟩ fuel
    else d

end Decimal

namespace Binary64

/-- **The interval that rounds to a number**, in units of `2 ^ (exponent - 2)`: its lower
end, the number itself, and its upper end. Below a power of two the neighbour is half as
far away. -/
def interval (x : Binary64) : Nat × Nat × Nat :=
  let low :=
    if x.mantissa = Nat.pow 2 (precision - 1) ∧ x.exponent ≠ minExponent then 4 * x.mantissa - 1
    else 4 * x.mantissa - 2
  (low, 4 * x.mantissa, 4 * x.mantissa + 2)

/-- The greatest `p` with `10 ^ p ≤ num / den`, for a positive quotient, starting from an
estimate that is at most `fuel` too low or one too high. -/
def floorLog10 (num den : Nat) (estimate : Int) : Nat → Int
  | 0 => estimate
  | fuel + 1 =>
    let atLeast (p : Int) : Bool := den * Nat.pow 10 p.toNat ≤ num * Nat.pow 10 (-p).toNat
    if atLeast (estimate + 1) then floorLog10 num den (estimate + 1) fuel
    else if atLeast estimate then estimate
    else estimate - 1

/-- The multiple of `10 ^ scale` next to the number that lies in its interval, if one does:
of two, the nearer, and of two equally near ones the even. The interval is given in units of
`unit.1 / unit.2`. -/
def gridPoint? (x : Binary64) (unit : Nat × Nat) (scale : Int) : Option Decimal :=
  let (low, mid, high) := x.interval
  -- everything in units of `10 ^ scale / d`
  let n := unit.1 * Nat.pow 10 (-scale).toNat
  let d := unit.2 * Nat.pow 10 scale.toNat
  let closed := x.mantissa % 2 = 0
  let below := mid * n / d
  let above := below + 1
  let hit (k : Nat) : Bool :=
    0 < k && if closed then low * n ≤ k * d && k * d ≤ high * n else low * n < k * d && k * d < high * n
  let toBelow := mid * n - below * d
  let toAbove := above * d - mid * n
  if hit below then
    if hit above ∧ (toAbove < toBelow ∨ toAbove = toBelow ∧ above % 2 = 0) then
      some ⟨above, scale⟩
    else some ⟨below, scale⟩
  else if hit above then some ⟨above, scale⟩
  else none

/-- The first hit among grids of `scale`, `scale - 1`, and so on. -/
def firstGridPoint (x : Binary64) (unit : Nat × Nat) (scale : Int) : Nat → Decimal
  | 0 => ⟨0, scale⟩
  | fuel + 1 =>
    match x.gridPoint? unit scale with
    | some d => d
    | none => firstGridPoint x unit (scale - 1) fuel

/-- **The shortest decimal** of a magnitude other than zero. Seventeen digits always
suffice; the trailing zeros of a hit that was rounded up across a power of ten go. -/
def shortest (x : Binary64) : Decimal :=
  let unit : Nat × Nat := (Nat.pow 2 (x.exponent - 2).toNat, Nat.pow 2 (2 - x.exponent).toNat)
  let num := 4 * x.mantissa * unit.1
  let estimate : Int := (floorLog2 num unit.2 * 30103) / 100000 - 1
  let p := floorLog10 num unit.2 estimate 4
  (x.firstGridPoint unit p 18).stripZeros 20

end Binary64

end ProtoSchema
