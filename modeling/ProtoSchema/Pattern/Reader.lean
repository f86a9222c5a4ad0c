/-
Reading regular expressions.

The notation is the usual one: alternatives, groups with and without names, repetition by
`?`, `*` and `+`, sets between brackets with nesting and set operations, escapes, and switches
such as `(?i)`. A pattern stands between braces in a log filter and so never holds a closing
brace. Whatever needs one, a counted repetition or a code point in braces, is therefore never
complete, and an opening brace outside a set is an error. Looking ahead and behind, backward
references and classes by property are errors too. After `(?x)` blanks and comments between
the parts are skipped.

Functions give what they have read and the characters that follow. Every step takes a
character, so that fuel of the size of the text suffices.
-/
import ProtoSchema.Pattern.Basic
import ProtoSchema.Text.Alphanumeric
import ProtoSchema.Text.Blank

set_option autoImplicit false

namespace ProtoSchema

namespace Pattern

/-! ## Blanks -/

/-- The characters after blanks and comments; a comment ends with its line. -/
def afterBlanks (inComment : Bool) : List Char → List Char
  | [] => []
  | c :: rest =>
    if inComment then afterBlanks (c ≠ '\n') rest
    else if Blank.isBlank c then afterBlanks false rest
    else if c = '#' then afterBlanks true rest
    else c :: rest

/-- The characters from the next part on. -/
def nextPart (verbose : Bool) (cs : List Char) : List Char :=
  if verbose then afterBlanks false cs else cs

/-- The character that decides about a dash in a set, among the characters after the dash. In
verbose notation that is the first one which is neither blank nor the beginning of a comment;
if there is none it is the first of all. -/
def afterDash? (verbose : Bool) (cs : List Char) : Option Char :=
  if verbose then
    let visible := match cs.dropWhile Blank.isBlank with
      | '#' :: comment => comment.dropWhile Blank.isBlank
      | other => other
    match visible with
    | c :: _ => some c
    | [] => cs.head?
  else cs.head?

/-! ## Escapes -/

/-- The value of a hexadecimal digit. -/
def hexValue? (c : Char) : Option Nat :=
  if c.isDigit then some (c.toNat - 48)
  else if 'a' ≤ c && c ≤ 'f' then some (c.toNat - 87)
  else if 'A' ≤ c && c ≤ 'F' then some (c.toNat - 55)
  else none

/-- The number that so many hexadecimal digits write, after one that is read already. -/
def hexNumber? (verbose : Bool) (read : Nat) : Nat → List Char → Option (Nat × List Char)
  | 0, cs => some (read, cs)
  | _, [] => none
  | count + 1, c :: rest => do
    let digit ← hexValue? c
    hexNumber? verbose (16 * read + digit) count (nextPart verbose rest)

/-- The character that so many hexadecimal digits write. -/
def codePoint? (verbose : Bool) (count : Nat) (cs : List Char) : Option (Char × List Char) := do
  let (n, rest) ← hexNumber? verbose 0 count (nextPart verbose cs)
  if n < 0xD800 || (0xDFFF < n && n < 0x110000) then some (Char.ofNat n, rest) else none

/-- Whether a character stands for itself after a backslash. -/
def isEscapable (c : Char) : Bool := c.toNat < 0x80 && !c.isAlphanum && c ≠ '<' && c ≠ '>'

/-- What an escape stands for, after its backslash. -/
def escape? (verbose : Bool) : List Char → Option (Pattern × List Char)
  | [] => none
  | c :: rest =>
    if c = 'x' then (codePoint? verbose 2 rest).map fun (d, left) => (.char d true, left)
    else if c = 'u' then (codePoint? verbose 4 rest).map fun (d, left) => (.char d false, left)
    else if c = 'U' then (codePoint? verbose 8 rest).map fun (d, left) => (.char d false, left)
    else if "dswDSW".toList.contains c then some (.lettered c, rest)
    else if isEscapable c then some (.char c false, rest)
    else if c = 'a' then some (.char '\x07' false, rest)
    else if c = 'f' then some (.char '\x0c' false, rest)
    else if c = 't' then some (.char '\t' false, rest)
    else if c = 'n' then some (.char '\n' false, rest)
    else if c = 'r' then some (.char '\r' false, rest)
    else if c = 'v' then some (.char '\x0b' false, rest)
    else if c = 'A' || c = 'z' then some (.edge, rest)
    else if "bB<>".toList.contains c then some (.wordEdge, rest)
    else none

/-! ## Sets -/

/-- The names of the classes with a name. -/
def classNames : List String := [
  "alnum", "alpha", "ascii", "blank", "cntrl", "digit", "graph", "lower", "print", "punct",
  "space", "upper", "word", "xdigit"]

/-- A class with a name, after the opening bracket. -/
def namedClass? (cs : List Char) : Option (SetItem × List Char) := do
  let inside ← match cs with
    | ':' :: inside => some inside
    | _ => none
  let (negated, inside) := match inside with
    | '^' :: more => (true, more)
    | more => (false, more)
  let name := String.ofList (inside.takeWhile (· ≠ ':'))
  match inside.dropWhile (· ≠ ':') with
  | ':' :: ']' :: rest => if classNames.contains name then some (.named negated name, rest) else none
  | _ => none

/-- A character or an escape in a set. -/
def setPart? (verbose : Bool) : List Char → Option (Pattern × List Char)
  | [] => none
  | '\\' :: rest => escape? verbose rest
  | c :: rest => some (.char c false, rest)

/-- A part of a set as an item of its own. -/
def itemOf? : Pattern → Option SetItem
  | .char c _ => some (.char c)
  | .lettered letter => some (.lettered letter)
  | _ => none

/-- A part of a set as an end of a range. -/
def rangeEnd? : Pattern → Option Char
  | .char c _ => some c
  | _ => none

/-- An item at the front of a set: a range if a dash follows that is neither the last character
of the set nor the first of an operator. -/
def setItem? (verbose : Bool) (cs : List Char) : Option (SetItem × List Char) := do
  let (part, rest) ← setPart? verbose cs
  match nextPart verbose rest with
  | [] => none
  | '-' :: after =>
    if afterDash? verbose after = some ']' || afterDash? verbose after = some '-' then
      return (← itemOf? part, '-' :: after)
    else
      let (last, left) ← setPart? verbose (nextPart verbose after)
      let first ← rangeEnd? part
      let last ← rangeEnd? last
      if first ≤ last then return (.range first last, left) else none
  | rest => return (← itemOf? part, rest)

/-- The beginning of a set: whether it is negated, and the items that only stand for themselves
because they come first. -/
def setStart (verbose : Bool) (cs : List Char) : Bool × List SetItem × List Char :=
  let cs := nextPart verbose cs
  let (negated, cs) := match cs with
    | '^' :: rest => (true, nextPart verbose rest)
    | cs => (false, cs)
  let (dashes, cs) := leadingDashes cs.length cs
  match dashes, cs with
  | [], ']' :: rest => (negated, [.char ']'], nextPart verbose rest)
  | dashes, cs => (negated, dashes, cs)
where
  /-- The dashes in front, and what follows them. -/
  leadingDashes : Nat → List Char → List SetItem × List Char
    | fuel + 1, '-' :: rest =>
      let (more, left) := leadingDashes fuel (nextPart verbose rest)
      (.char '-' :: more, left)
    | _, cs => ([], cs)

/-- The operator at the front of a set. -/
def setOperation? : List Char → Option (SetOperation × List Char)
  | '&' :: '&' :: rest => some (.intersection, rest)
  | '-' :: '-' :: rest => some (.difference, rest)
  | '~' :: '~' :: rest => some (.symmetricDifference, rest)
  | _ => none

/-- A set under construction: the set on the left of an operator, if there is one, and the
items after it, the latest first. -/
structure SetDraft where
  left : Option (SetOperation × CharSet) := none
  items : List SetItem := []

/-- The set of a draft. -/
def SetDraft.finish (d : SetDraft) : CharSet :=
  let right := CharSet.union d.items.reverse
  match d.left with
  | none => right
  | some (operation, left) => .combined operation left right

/-- The rest of a set, up to its closing bracket. -/
def setRest? (verbose : Bool) : Nat → SetDraft → List Char → Option (CharSet × List Char)
  | 0, _, _ => none
  | fuel + 1, draft, cs =>
    match nextPart verbose cs with
    | [] => none
    | '[' :: rest =>
      match namedClass? rest with
      | some (item, rest) => setRest? verbose fuel { draft with items := item :: draft.items } rest
      | none => do
        let (negated, items, rest) := setStart verbose rest
        let (set, rest) ← setRest? verbose fuel { items := items.reverse } rest
        setRest? verbose fuel { draft with items := .nested negated set :: draft.items } rest
    | ']' :: rest => some (draft.finish, rest)
    | cs =>
      match setOperation? cs with
      | some (operation, rest) =>
        setRest? verbose fuel { left := some (operation, draft.finish) } rest
      | none => do
        let (item, rest) ← setItem? verbose cs
        setRest? verbose fuel { draft with items := item :: draft.items } rest

/-! ## Groups -/

/-- The switch of a letter. -/
def flag? (c : Char) : Option PatternFlag :=
  match c with
  | 'i' => some .ignoreCase
  | 'm' => some .multiLine
  | 's' => some .dotMatchesAll
  | 'U' => some .swapGreed
  | 'u' => some .unicode
  | 'R' => some .carriageReturn
  | 'x' => some .verbose
  | _ => none

/-- Switches up to a colon or a closing parenthesis, which is left. No switch is given twice,
and one minus sign may stand before those that are switched off. -/
def flagSettings? (found : FlagSettings) (negated : Bool) :
    List Char → Option (FlagSettings × List Char)
  | [] => none
  | ':' :: rest => some (found, ':' :: rest)
  | ')' :: rest => some (found, ')' :: rest)
  | '-' :: rest =>
    match negated, rest with
    | true, _ | _, ':' :: _ | _, ')' :: _ => none
    | false, rest => flagSettings? found true rest
  | c :: rest => do
    let flag ← flag? c
    if found.any fun s => s.1 = flag then none
    else flagSettings? (found ++ [(flag, !negated)]) negated rest

/-- Whether a text may name a group. -/
def isGroupName : List Char → Bool
  | [] => false
  | c :: rest =>
    (c = '_' || Alphanumeric.isLetter c) &&
      rest.all fun d => d = '_' || d = '.' || d = '[' || d = ']' || Alphanumeric.holds d

/-- What a group begins with. -/
inductive GroupStart where
  | plain
  | named (name : String)
  /-- Switches for the group alone. -/
  | inner (settings : FlagSettings)
  /-- Switches for all that follows, and no group at all. -/
  | switches (settings : FlagSettings)

/-- The beginning of a group, after the opening parenthesis. -/
def groupStart? (cs : List Char) : Option (GroupStart × List Char) :=
  match cs with
  | '?' :: 'P' :: '<' :: rest => name? rest
  | '?' :: '<' :: rest => name? rest
  | '?' :: rest => do
    let (settings, left) ← flagSettings? [] false rest
    match left with
    | ':' :: left => return (.inner settings, left)
    | _ :: left => if settings.isEmpty then none else return (.switches settings, left)
    | [] => none
  | cs => some (.plain, cs)
where
  /-- A name up to a closing angle bracket. -/
  name? (cs : List Char) : Option (GroupStart × List Char) :=
    let name := cs.takeWhile (· ≠ '>')
    match cs.dropWhile (· ≠ '>') with
    | _ :: rest => if isGroupName name then some (.named (String.ofList name), rest) else none
    | [] => none

/-! ## Patterns -/

/-- Whether a pattern may be repeated. -/
def isRepeatable : Pattern → Bool
  | .flags _ => false
  | _ => true

/-- A pattern under construction: branches and parts, the latest first, and the names of the
groups so far. -/
structure Draft where
  branches : List Pattern := []
  parts : List Pattern := []
  names : List String := []

/-- The draft with one more part. -/
def Draft.push (d : Draft) (p : Pattern) : Draft := { d with parts := p :: d.parts }

/-- The draft with its branch closed. -/
def Draft.close (d : Draft) : Draft :=
  { d with branches := ofParts d.parts.reverse :: d.branches, parts := [] }

/-- The pattern of a draft. -/
def Draft.finish (d : Draft) : Pattern := ofBranches d.close.branches.reverse

/-- The characters without a question mark in front, which makes a repetition reluctant. -/
def afterReluctance : List Char → List Char
  | '?' :: rest => rest
  | cs => cs

/-- The rest of a pattern, up to the end of the text or a closing parenthesis, and the draft
that it completes. -/
def rest? : Nat → Bool → Draft → List Char → Option (Draft × List Char)
  | 0, _, _, _ => none
  | fuel + 1, verbose, draft, cs =>
    match nextPart verbose cs with
    | [] => some (draft, [])
    | c :: rest =>
      if c = ')' then some (draft, c :: rest)
      else if c = '|' then rest? fuel verbose draft.close rest
      else if c = '?' || c = '*' || c = '+' then
        match draft.parts with
        | [] => none
        | p :: parts =>
          if isRepeatable p then
            rest? fuel verbose { draft with parts := .repeated p :: parts } (afterReluctance rest)
          else none
      else if c = '\x7b' then none
      else if c = '[' then do
        let (negated, items, rest) := setStart verbose rest
        let (set, rest) ← setRest? verbose (fuel + 1) { items := items.reverse } rest
        rest? fuel verbose (draft.push (.oneOf negated set)) rest
      else if c = '(' then do
        let (start, rest) ← groupStart? (nextPart verbose rest)
        match start with
        | .switches settings =>
          rest? fuel (settings.valueOr .verbose verbose) (draft.push (.flags settings)) rest
        | .plain => group? fuel verbose [] draft.names draft rest
        | .inner settings => group? fuel verbose settings draft.names draft rest
        | .named name =>
          if draft.names.contains name then none
          else group? fuel verbose [] (name :: draft.names) draft rest
      else if c = '\\' then do
        let (p, rest) ← escape? verbose rest
        rest? fuel verbose (draft.push p) rest
      else
        let p : Pattern :=
          if c = '.' then .anyChar
          else if c = '^' || c = '$' then .edge
          else .char c false
        rest? fuel verbose (draft.push p) rest
where
  /-- The rest of a pattern from the inside of a group on, given the switches of the group and
  the names that its inside must not use. -/
  group? (fuel : Nat) (verbose : Bool) (settings : FlagSettings) (names : List String)
      (draft : Draft) (cs : List Char) : Option (Draft × List Char) :=
    match fuel with
    | 0 => none
    | fuel + 1 => do
      let (inner, rest) ← rest? fuel (settings.valueOr .verbose verbose) { names } cs
      match rest with
      | ')' :: rest =>
        rest? fuel verbose { draft.push (.group settings inner.finish) with names := inner.names } rest
      | _ => none

/-- **The pattern that a text is**, or `none` if it is none. -/
def ofChars? (cs : List Char) : Option Pattern := do
  let (draft, rest) ← rest? (3 * cs.length + 3) false {} cs
  if rest.isEmpty then some draft.finish else none

end Pattern

end ProtoSchema
