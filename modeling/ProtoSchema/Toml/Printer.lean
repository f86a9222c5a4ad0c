/-
Writing TOML strings.

Of the four ways to write a string the first that shows the text without escapes is chosen:
in double quotes, in single quotes, and the same over several lines. Escapes are left for
texts that none of them can show.
-/
import ProtoSchema.Toml.Basic

set_option autoImplicit false

namespace ProtoSchema

namespace Toml

/-! ## What a text contains -/

/-- The length of the longest run of a character. -/
def longestRun (c : Char) (cs : List Char) : Nat :=
  (cs.foldl (fun (best, now) d =>
    let now := if d == c then now + 1 else 0
    (max best now, now)) (0, 0)).1

/-- Whether a text has a control that can only be written by an escape. -/
def hasControl (cs : List Char) : Bool :=
  cs.any fun c => (c.toNat < 0x20 && c != '\t' && c != '\n') || c.toNat == 0x7F

/-! ## Escapes -/

/-- Four upper-case hexadecimal digits. -/
def fourDigits (n : Nat) : List Char :=
  let ds := (Nat.toDigits 16 n).map Char.toUpper
  List.replicate (4 - ds.length) '0' ++ ds

/-- The characters that write one character of a string with escapes, over several lines or
not. -/
def escapedChar (long : Bool) (c : Char) : List Char :=
  if c = '\x08' then ['\\', 'b']
  else if c = '\t' then ['\\', 't']
  else if c = '\n' then if long then ['\n'] else ['\\', 'n']
  else if c = '\x0c' then ['\\', 'f']
  else if c = '\r' then ['\\', 'r']
  else if c = '\\' then ['\\', '\\']
  else if c.toNat < 0x20 || c.toNat == 0x7F then ['\\', 'u'] ++ fourDigits c.toNat
  else [c]

/-- The characters that write a text with escapes, of which `quotes` double quotes were the
last. Over several lines two quotes may stand together, on one line none. -/
def escapedChars (long : Bool) (quotes : Nat) : List Char → List Char
  | [] => []
  | c :: rest =>
    if c = '"' then
      if (if long then 2 else 0) < quotes + 1 then '\\' :: '"' :: escapedChars long 0 rest
      else '"' :: escapedChars long (quotes + 1) rest
    else escapedChar long c ++ escapedChars long 0 rest

/-! ## Strings -/

/-- A string with escapes on one line. -/
def basicText (cs : List Char) : List Char := ['"'] ++ escapedChars false 0 cs ++ ['"']

/-- A string without escapes on one line. -/
def literalText (cs : List Char) : List Char := ['\''] ++ cs ++ ['\'']

/-- The line end after opening quotes, which is there if the text has several lines. -/
def opening (cs : List Char) : List Char := if cs.contains '\n' then ['\n'] else []

/-- A string with escapes over several lines. -/
def longBasicText (cs : List Char) : List Char :=
  ['"', '"', '"'] ++ opening cs ++ escapedChars true 0 cs ++ ['"', '"', '"']

/-- A string without escapes over several lines. -/
def longLiteralText (cs : List Char) : List Char :=
  ['\'', '\'', '\''] ++ opening cs ++ cs ++ ['\'', '\'', '\'']

/-- **The text of a string.** -/
def stringText (s : String) : String :=
  let cs := s.toList
  let newline := cs.contains '\n'
  let backslash := cs.contains '\\'
  String.ofList <|
    if hasControl cs then if newline then longBasicText cs else basicText cs
    else if !backslash && !newline && !cs.contains '"' then basicText cs
    else if !newline && !cs.contains '\'' then literalText cs
    else if !backslash && longestRun '"' cs ≤ 2 then longBasicText cs
    else if longestRun '\'' cs ≤ 2 then longLiteralText cs
    else if newline then longBasicText cs
    else basicText cs

/-- The text of a list of strings: on one line up to one string, otherwise with each string on
a line of its own. -/
def stringsText : List String → String
  | [] => "[]"
  | [s] => "[" ++ stringText s ++ "]"
  | items => "[\n" ++ String.join (items.map fun s => "    " ++ stringText s ++ ",\n") ++ "]"

end Toml

end ProtoSchema
