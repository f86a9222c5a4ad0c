/-
Names of the constants that enums have to have.

Every enum needs a constant with the number zero. Where a document gives none, one is added,
named after the enum: its words in upper case, joined by underscores, and the word
`UNSPECIFIED`. Words end at separators, where the case rises, between letters and digits, and
before the last capital of an acronym that a lower-case letter follows. Separators go; every
one of them ends a word, so that two in a row leave an empty word between them.
-/
import ProtoSchema.Text.Cluster
import ProtoSchema.Text.Uppercase

set_option autoImplicit false

namespace ProtoSchema

namespace ConstantName

/-- A unit of text: a character with the marks that belong to it. -/
abbrev TextUnit := List Char

/-- Whether a unit is a capital: it is its own upper-case form, but not its own lower-case
form. -/
def isCapital (u : TextUnit) : Bool := !u.any Uppercase.changes && u.any Uppercase.lowerChanges

/-- Whether a unit is in lower case. -/
def isLower (u : TextUnit) : Bool := u.any Uppercase.changes && !u.any Uppercase.lowerChanges

/-- Whether a unit is a digit of ASCII. -/
def isDigit (u : TextUnit) : Bool := u.all Char.isDigit

/-- Whether a unit separates words. -/
def isSeparator (u : TextUnit) : Bool := u == ['_'] || u == ['-'] || u == [' ']

/-- **Whether a word ends between two units**, given the unit after them. -/
def endsBetween (a b : TextUnit) (after : Option TextUnit) : Bool :=
  (isLower a && isCapital b) || (isLower a && isDigit b) || (isCapital a && isDigit b) ||
    (isDigit a && isLower b) || (isDigit a && isCapital b) ||
    (isCapital a && isCapital b && after.any isLower)

/-- **The words of a text**, given as units; never empty. -/
def words : List TextUnit → List (List TextUnit)
  | [] => [[]]
  | u :: rest =>
    if isSeparator u then [] :: words rest
    else
      match rest with
      | [] => [[u]]
      | v :: after =>
        let tail := words rest
        if isSeparator v then
          match tail with
          | [] => [[u]]
          | first :: more => (u :: first) :: more
        else if endsBetween u v after.head? then [u] :: tail
        else
          match tail with
          | [] => [[u]]
          | first :: more => (u :: first) :: more

/-- The words in upper case, joined by underscores. -/
def upperSnake (text : String) : String :=
  let parts := (words (Cluster.units text.toList)).map fun w =>
    String.ofList (w.flatMap Uppercase.ofChars)
  String.intercalate "_" parts

/-- **The name of the zero constant** of an enum. -/
def zero (enumName : String) : String := upperSnake (enumName ++ "Unspecified")

end ConstantName

end ProtoSchema
