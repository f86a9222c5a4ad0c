/-
String literals of generated text.

A literal stands in double quotes. Quotes, backslashes and the common controls are written
with a backslash and a letter, other controls with their hexadecimal code, and every other
character as itself. A byte string is written as the text it is; bytes that belong to no
character get their hexadecimal codes.
-/
import ProtoSchema.Text.Utf8

set_option autoImplicit false

namespace ProtoSchema

namespace Literal

/-- A byte by its two hexadecimal digits. -/
def hexEscape (b : UInt8) : List Char :=
  ['\\', 'x', Nat.digitChar (b.toNat / 16), Nat.digitChar (b.toNat % 16)]

/-- Whether a character is a control of ASCII. -/
def isControl (c : Char) : Bool := c.toNat < 0x20 || c.toNat == 0x7F

/-- The characters that write one character. -/
def escape (c : Char) : List Char :=
  if c = '"' then ['\\', '"']
  else if c = '\\' then ['\\', '\\']
  else if c = '\n' then ['\\', 'n']
  else if c = '\r' then ['\\', 'r']
  else if c = '\t' then ['\\', 't']
  else if isControl c then hexEscape (UInt8.ofNat c.toNat)
  else [c]

/-- The characters that write a piece of a byte string. -/
def escapePiece : Utf8.Piece → List Char
  | .char c => escape c
  | .invalid bs => bs.flatMap hexEscape

/-- Characters in quotes. -/
def inQuotes (body : List Char) : String := String.ofList ('"' :: body ++ ['"'])

/-- **The literal of a string.** -/
def ofString (s : String) : String := inQuotes (s.toList.flatMap escape)

/-- **The literal of a byte string.** -/
def ofBytes (bs : List UInt8) : String := inQuotes ((Utf8.pieces bs).flatMap escapePiece)

end Literal

end ProtoSchema
