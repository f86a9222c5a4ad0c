/-
Regular expressions.

A pattern is a tree. Sequences and alternatives of a single part are that part, so that the
height of a tree counts only the nodes that hold something together. Patterns are never
matched here: a log filter is well formed if its patterns are, and what a filter lets through
is not part of any result.
-/

set_option autoImplicit false

namespace ProtoSchema

/-- A switch that changes how the patterns after it are read or matched. -/
inductive PatternFlag where
  | ignoreCase
  | multiLine
  | dotMatchesAll
  | swapGreed
  /-- Matches characters rather than single bytes. -/
  | unicode
  | carriageReturn
  /-- Skips blanks and comments between the parts of a pattern. -/
  | verbose
deriving DecidableEq, Repr

/-- Switches with the values that they get, in the order of writing. -/
abbrev FlagSettings := List (PatternFlag × Bool)

namespace FlagSettings

/-- The value of a switch after settings, given the value before them. -/
def valueOr (settings : FlagSettings) (flag : PatternFlag) (before : Bool) : Bool :=
  match settings.find? fun s => s.1 = flag with
  | some (_, value) => value
  | none => before

end FlagSettings

namespace Pattern

/-- How two sets of characters are combined. -/
inductive SetOperation where
  | intersection
  | difference
  | symmetricDifference
deriving DecidableEq, Repr

mutual

/-- **A set of characters** between brackets. -/
inductive CharSet where
  | union (items : List SetItem)
  | combined (operation : SetOperation) (left right : CharSet)

/-- An item of a set of characters. -/
inductive SetItem where
  | char (c : Char)
  | range (first last : Char)
  /-- A class with a name, such as `[:alpha:]`. -/
  | named (negated : Bool) (name : String)
  /-- A class with a letter, such as `\\d`. -/
  | lettered (letter : Char)
  | nested (negated : Bool) (set : CharSet)

end

end Pattern

/-- **A regular expression.** -/
inductive Pattern where
  | empty
  /-- A character; `asByte` if it is written as the number of a byte. -/
  | char (c : Char) (asByte : Bool)
  | anyChar
  /-- An edge of a line or of the text. -/
  | edge
  /-- An edge of a word, or a place that is none. -/
  | wordEdge
  | lettered (letter : Char)
  | oneOf (negated : Bool) (set : Pattern.CharSet)
  | flags (settings : FlagSettings)
  | repeated (p : Pattern)
  | group (settings : FlagSettings) (p : Pattern)
  | sequence (ps : List Pattern)
  | alternatives (ps : List Pattern)

namespace Pattern

/-- The sequence of parts. -/
def ofParts : List Pattern → Pattern
  | [] => .empty
  | [p] => p
  | ps => .sequence ps

/-- The alternatives of branches. -/
def ofBranches : List Pattern → Pattern
  | [] => .empty
  | [p] => p
  | ps => .alternatives ps

/-! ## Heights -/

mutual

/-- The height of a set. A union of several items counts, one of a single item does not. -/
def CharSet.height : CharSet → Nat
  | .union [] => 0
  | .union [item] => item.height
  | .union (first :: second :: rest) =>
    1 + max first.height (max second.height (heightOfItems rest))
  | .combined _ left right => 1 + max left.height right.height

/-- The height of an item. -/
def SetItem.height : SetItem → Nat
  | .nested _ set => 1 + set.height
  | .char _ | .range _ _ | .named _ _ | .lettered _ => 0

/-- The height of the highest of several items. -/
def heightOfItems : List SetItem → Nat
  | [] => 0
  | item :: rest => max item.height (heightOfItems rest)

end

mutual

/-- **The height of a pattern**: how many nodes with parts lie on its longest branch. -/
def height : Pattern → Nat
  | .oneOf _ set => 1 + set.height
  | .repeated p => 1 + p.height
  | .group _ p => 1 + p.height
  | .sequence ps => 1 + heightOfAll ps
  | .alternatives ps => 1 + heightOfAll ps
  | .empty | .char _ _ | .anyChar | .edge | .wordEdge | .lettered _ | .flags _ => 0

/-- The height of the highest of several patterns. -/
def heightOfAll : List Pattern → Nat
  | [] => 0
  | p :: rest => max p.height (heightOfAll rest)

end

end Pattern

end ProtoSchema
