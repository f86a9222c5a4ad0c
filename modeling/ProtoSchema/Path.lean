/-
Paths as texts.

A path is a text whose segments are divided by slashes. The functions here look at the text
alone and never at a file system: empty segments and single dots inside a path name nothing
and are skipped, a dot at the very beginning counts, and two dots are a component like a
name. Cutting a path gives back a part of its text, so that what is kept is kept verbatim.
-/
import ProtoSchema.Text.Split

set_option autoImplicit false

namespace ProtoSchema

namespace Path

/-! ## Segments -/

/-- The segments of a path: the texts between its slashes. -/
def segments (path : String) : List String := (splitChars '/' path.toList).map String.ofList

/-- Whether a path starts at the root. -/
def isAbsolute (path : String) : Bool := path.toList.head? == some '/'

/-- A segment that names nothing. -/
def isIdle (segment : String) : Bool := segment == "" || segment == "."

/-- **A path in two parts**: its beginning, which is the root, a leading dot or nothing, and
the segments after it. -/
structure Parts where
  start : String
  body : List String
deriving DecidableEq, Repr

/-- The parts of a path. -/
def parts (path : String) : Parts :=
  match segments path with
  | "" :: second :: rest => { start := "/", body := second :: rest }
  | "." :: rest => { start := ".", body := if rest.isEmpty then [] else "" :: rest }
  | segs => { start := "", body := segs }

/-- The components of a path after its beginning: the segments that are not idle. -/
def components (path : String) : List String := (parts path).body.filter fun s => !isIdle s

/-- Whether a path has more components than one, its beginning included. -/
def isCompound (path : String) : Bool :=
  (if (parts path).start == "" then 1 else 0) < (components path).length

/-- The segments without idle ones at the end. -/
def trimIdle (segs : List String) : List String := (segs.reverse.dropWhile isIdle).reverse

/-! ## Taking paths apart -/

/-- The last component of a path, unless that is its beginning. -/
def lastSegment? (path : String) : Option String := (trimIdle (parts path).body).getLast?

/-- **The path without its last component.** The root and the empty path have none to take
away. -/
def parent? (path : String) : Option String :=
  let p := parts path
  match trimIdle p.body with
  | [] => if p.start == "." then some "" else none
  | seg :: segs =>
    some (p.start ++ String.intercalate "/" (trimIdle (seg :: segs).dropLast))

/-- The last component, if it is a name. -/
def fileName? (path : String) : Option String :=
  match lastSegment? path with
  | some ".." => none
  | other => other

/-- **The extension of a path**: what follows the last dot of its file name. A dot that starts
the name does not count. -/
def extension? (path : String) : Option String := do
  let name ← fileName? path
  let reversed := name.toList.reverse
  match reversed.dropWhile (· ≠ '.') with
  | _ :: _ :: _ => some (String.ofList (reversed.takeWhile (· ≠ '.')).reverse)
  | _ => none

/-! ## Putting paths together -/

/-- **A path below another one.** An absolute path is below every other one as it stands. -/
def join (base path : String) : String :=
  if isAbsolute path then path
  else
    match base.toList.getLast? with
    | none | some '/' => base ++ path
    | some _ => base ++ "/" ++ path

end Path

end ProtoSchema
