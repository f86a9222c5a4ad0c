/-
Sets of characters given by ranges of code points.

The tables of a character property list ranges in ascending order. Some properties hold of
every second code point over long stretches, which a range with a step says in one entry.
-/

set_option autoImplicit false

namespace ProtoSchema

/-- The code points `first`, `first + step`, and so on up to `last`. -/
structure CodeRange where
  first : Nat
  last : Nat
  step : Nat
deriving DecidableEq, Repr

namespace CodeRange

/-- Whether a character belongs to the range. -/
def contains (r : CodeRange) (c : Char) : Bool :=
  r.first ≤ c.toNat && c.toNat ≤ r.last && (c.toNat - r.first) % r.step == 0

/-- Whether a character belongs to one of several unbroken ranges, given by their ends. -/
def inAny (ranges : List (Nat × Nat)) (c : Char) : Bool :=
  ranges.any fun r => r.1 ≤ c.toNat && c.toNat ≤ r.2

end CodeRange

end ProtoSchema
