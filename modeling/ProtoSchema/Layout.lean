/-
Laying out nested blocks on lines.

A text is a list of lines, and a line may open a block of further lines. When written, a
block is either collapsed, its lines following each other on the opening line, or expanded,
its lines indented one step deeper between the opening line and a line for the closing token.

A block is collapsed when it fits on the line, unless it is of a kind that is always
expanded or holds such a block at any depth. The width counts the tokens only, not the single
blanks between collapsed lines. The decision is taken for each line by itself, from the
indentation it is written at: a line inside a collapsed block is written without any.
-/

set_option autoImplicit false

namespace ProtoSchema

namespace Layout

/-- **A line**: plain text, or a token that opens a block, the block's lines and the token
that closes it. -/
inductive Line where
  | plain (text : String)
  | block (opening : String) (lines : List Line) (closing : String)
deriving Repr, Inhabited

/-- The lines of a text or of a block. -/
abbrev Body := List Line

/-- The number of blanks of one step of indentation. -/
def indentStep : Nat := 4

/-- A collapsed block ends before this column. -/
def maxWidth : Nat := 80

/-- Words that open blocks which are always expanded. -/
def structuralWords : List String := ["message", "enum", "extend", "oneof", "service"]

/-- Second words of such openings. -/
def expandedOptions : List String := ["(google.api.http)"]

/-! ## Which blocks are expanded -/

/-- The text up to the first blank, and the text after it. -/
def firstWord (cs : List Char) : List Char × List Char :=
  (cs.takeWhile (· ≠ ' '), (cs.dropWhile (· ≠ ' ')).drop 1)

/-- Whether an opening token belongs to a block that is always expanded. -/
def alwaysExpands (opening : String) : Bool :=
  let (first, rest) := firstWord opening.toList
  structuralWords.contains (String.ofList first) ||
    expandedOptions.contains (String.ofList (firstWord rest).1)

mutual

/-- Whether a line opens a block that is always expanded, or holds one. -/
def Line.holdsExpanded : Line → Bool
  | .plain _ => false
  | .block opening lines _ => alwaysExpands opening || anyHoldsExpanded lines

/-- Whether some line opens or holds a block that is always expanded. -/
def anyHoldsExpanded : List Line → Bool
  | [] => false
  | line :: rest => line.holdsExpanded || anyHoldsExpanded rest

end

mutual

/-- The width of a line's tokens. -/
def Line.width : Line → Nat
  | .plain text => text.utf8ByteSize
  | .block opening lines closing =>
    opening.utf8ByteSize + (closing.utf8ByteSize + totalWidth lines)

/-- The width of the tokens of several lines. -/
def totalWidth : List Line → Nat
  | [] => 0
  | line :: rest => line.width + totalWidth rest

end

/-- **Whether a block is collapsed** on a line that starts behind `indent` blanks. -/
def collapses (indent : Nat) (opening : String) (lines : List Line) (closing : String) : Bool :=
  !(alwaysExpands opening || anyHoldsExpanded lines) &&
    decide (indent + opening.utf8ByteSize + (closing.utf8ByteSize + totalWidth lines) < maxWidth)

/-! ## Writing -/

/-- `n` blanks. -/
def blanks (n : Nat) : String := String.ofList (List.replicate n ' ')

mutual

/-- **The text of a line** that stands `depth` blocks deep and starts behind `indent` blanks.
A plain line without text is empty. -/
def Line.text (depth indent : Nat) : Line → String
  | .plain text => if text.isEmpty then "" else blanks indent ++ text
  | .block opening lines closing =>
    blanks indent ++ opening ++
      (if collapses indent opening lines closing then
        collapsedText (depth + 1) true lines
      else
        "\n" ++ expandedText (depth + 1) true lines ++ "\n" ++ blanks indent) ++ closing

/-- The texts of lines after each other, with blanks between them. -/
def collapsedText (depth : Nat) (first : Bool) : List Line → String
  | [] => ""
  | line :: rest =>
    (if first then "" else " ") ++ line.text depth 0 ++ collapsedText depth false rest

/-- The texts of lines below each other. -/
def expandedText (depth : Nat) (first : Bool) : List Line → String
  | [] => ""
  | line :: rest =>
    (if first then "" else "\n") ++ line.text depth (indentStep * depth) ++
      expandedText depth false rest

end

/-- **The text of a body**, without a line break at its end. -/
def render (body : Body) : String := expandedText 0 true body

end Layout

end ProtoSchema
