/-
Patterns that can be matched.

Patterns are matched by an automaton over the bytes of a text, built without tables of
character properties. Matching characters, which is the rule, it knows no letter classes, no
edges of words and no letter case, and matching bytes it must not leave UTF-8, which excludes
everything that could match a lone byte beyond ASCII. Nor may a pattern be too high.
-/
import ProtoSchema.Pattern.Reader

set_option autoImplicit false

namespace ProtoSchema

namespace Pattern

/-- The switches that decide what can be matched. -/
structure Mode where
  unicode : Bool := true
  ignoreCase : Bool := false
deriving DecidableEq, Repr

/-- The mode after settings. -/
def Mode.after (m : Mode) (settings : FlagSettings) : Mode where
  unicode := settings.valueOr .unicode m.unicode
  ignoreCase := settings.valueOr .ignoreCase m.ignoreCase

/-- Whether letter case has to be known for the characters of the mode. -/
def Mode.needsCase (m : Mode) : Bool := m.unicode && m.ignoreCase

/-- Whether a character may stand in a set. -/
def Mode.allowsInSet (m : Mode) (c : Char) : Bool :=
  !m.needsCase && (m.unicode || c.toNat < 0x80)

/-- Whether a negated class or set may be matched. -/
def Mode.allowsNegation (m : Mode) (negated : Bool) : Bool := m.unicode || !negated

/-- Whether a class with a letter may be matched: as bytes, unless it is negated. -/
def Mode.allowsLettered (m : Mode) (letter : Char) : Bool := !m.unicode && letter.isLower

mutual

/-- Whether a set can be matched. -/
def CharSet.isSupported (m : Mode) : CharSet → Bool
  | .union items => areSupportedItems m items
  | .combined _ left right => left.isSupported m && right.isSupported m

/-- Whether an item of a set can be matched. -/
def SetItem.isSupported (m : Mode) : SetItem → Bool
  | .char c => m.allowsInSet c
  | .range first last => m.allowsInSet first && m.allowsInSet last
  | .named negated _ => !m.needsCase && m.allowsNegation negated
  | .lettered letter => m.allowsLettered letter
  | .nested negated set => set.isSupported m && m.allowsNegation negated

/-- Whether several items can be matched. -/
def areSupportedItems (m : Mode) : List SetItem → Bool
  | [] => true
  | item :: rest => item.isSupported m && areSupportedItems m rest

end

mutual

/-- **The mode after a pattern**, or `none` if the pattern cannot be matched. Switches last to
the end of their group. -/
def modeAfter? (m : Mode) : Pattern → Option Mode
  | .char c asByte =>
    if m.needsCase || (!m.unicode && asByte && 0x80 ≤ c.toNat) then none else some m
  | .anyChar => if m.unicode then some m else none
  | .wordEdge => if m.unicode then none else some m
  | .lettered letter => if m.allowsLettered letter then some m else none
  | .oneOf negated set => if set.isSupported m && m.allowsNegation negated then some m else none
  | .flags settings => some (m.after settings)
  | .repeated p => p.modeAfter? m
  | .group settings p => (p.modeAfter? (m.after settings)).map fun _ => m
  | .sequence ps => modeAfterAll? m ps
  | .alternatives ps => modeAfterAll? m ps
  | .empty | .edge => some m

/-- The mode after several patterns, one after another. -/
def modeAfterAll? (m : Mode) : List Pattern → Option Mode
  | [] => some m
  | p :: rest =>
    match p.modeAfter? m with
    | some after => modeAfterAll? after rest
    | none => none

end

/-- The greatest height of a pattern. -/
def maxHeight : Nat := 250

/-- **Whether a text is a pattern that can be matched.** -/
def isValid (cs : List Char) : Bool :=
  match ofChars? cs with
  | some p => p.height ≤ maxHeight && (p.modeAfter? {}).isSome
  | none => false

end Pattern

end ProtoSchema
