/-
Blank characters and trimming.

Blank are the characters with the White_Space property: the ASCII blanks and controls from
tab to carriage return, and nineteen characters beyond ASCII.
-/
import ProtoSchema.Text.CodeRange

set_option autoImplicit false

namespace ProtoSchema

namespace Blank

/-- The blank characters. -/
def ranges : List (Nat × Nat) := [
  (0x9, 0xD), (0x20, 0x20), (0x85, 0x85), (0xA0, 0xA0), (0x1680, 0x1680), (0x2000, 0x200A),
  (0x2028, 0x2029), (0x202F, 0x202F), (0x205F, 0x205F), (0x3000, 0x3000)]

/-- Whether a character is blank. -/
def isBlank (c : Char) : Bool := CodeRange.inAny ranges c

/-- The text without blanks at its two ends. -/
def trimChars (cs : List Char) : List Char :=
  ((cs.dropWhile isBlank).reverse.dropWhile isBlank).reverse

end Blank

end ProtoSchema
