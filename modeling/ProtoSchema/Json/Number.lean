/-
The numbers of JSON documents.

A numeral without fraction and exponent is an integer as long as it fits a signed or an
unsigned word of 64 bits; every other numeral is a binary64 number. The two stay apart:
`1` and `1.0` are different numbers with different texts.
-/
import ProtoSchema.Number.Shortest

set_option autoImplicit false

namespace ProtoSchema

namespace Json

/-- **A number**: an integer, or a finite binary64 number. -/
inductive Number where
  | int (n : Int)
  | float (x : Binary64)
deriving DecidableEq, Repr, Inhabited

end Json

/-! ## Texts -/

/-- How a binary64 number is written in decimal: the exponents of its first digit that are
written without an exponent part. -/
structure FloatFormat where
  positionalFrom : Int
  positionalBelow : Int
deriving DecidableEq, Repr

namespace FloatFormat

/-- `n` zeros. -/
def zeros (n : Nat) : List Char := List.replicate n '0'

/-- Digits with the point after the first `lead + 1` of them; at least one digit stands on
either side. -/
def positional (digits : List Char) (lead : Int) : List Char :=
  if lead < 0 then '0' :: '.' :: (zeros ((-lead).toNat - 1) ++ digits)
  else
    let width := lead.toNat + 1
    let whole := digits.take width ++ zeros (width - digits.length)
    let fraction := digits.drop width
    whole ++ '.' :: (if fraction.isEmpty then ['0'] else fraction)

/-- One digit, the others behind a point, and the exponent with its sign. -/
def scientific (digits : List Char) (lead : Int) : List Char :=
  let fraction := digits.drop 1
  let exponent := (if lead < 0 then '-' else '+') :: Nat.toDigits 10 lead.natAbs
  digits.take 1 ++ (if fraction.isEmpty then [] else '.' :: fraction) ++ 'e' :: exponent

/-- **The text of a binary64 number**, with the fewest digits that determine it. -/
def text (format : FloatFormat) (x : Binary64) : String :=
  let sign := if x.negative then ['-'] else []
  let body :=
    if x.isZero then ['0', '.', '0']
    else
      let d := x.shortest
      if format.positionalFrom ≤ d.leadExponent ∧ d.leadExponent < format.positionalBelow then
        positional d.digitChars d.leadExponent
      else scientific d.digitChars d.leadExponent
  String.ofList (sign ++ body)

end FloatFormat

namespace Json

/-- Numbers from `0.00001` up to below `10 ^ 16` are written without an exponent. -/
def floatFormat : FloatFormat := ⟨-5, 16⟩

/-- The decimal text of an integer. -/
def intText (n : Int) : String :=
  String.ofList ((if n < 0 then ['-'] else []) ++ Nat.toDigits 10 n.natAbs)

namespace Number

/-- The text of a number. -/
def text : Number → String
  | .int n => intText n
  | .float x => floatFormat.text x

/-- The byte that a number is: it has to be whole and at most 255. Both zeros count. -/
def byte? : Number → Option UInt8
  | .int n => if 0 ≤ n ∧ n ≤ 255 then some (UInt8.ofNat n.toNat) else none
  | .float x =>
    match x.magnitudeNat? with
    | some n =>
      if n ≤ 255 ∧ (n = 0 ∨ x.negative = false) then some (UInt8.ofNat n) else none
    | none => none

end Number

end Json

end ProtoSchema
