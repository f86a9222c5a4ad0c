/-
File trees.

A file tree is a value: what stands at each place below the root, and which place is the
working directory. Operations that change files return a new tree, so that a whole run of the
compiler is a function from trees to trees. Paths are resolved segment by segment, and every
place on the way has to be a directory already: a trailing slash therefore asks for a
directory, and two dots lead to the parent of a place that exists.
-/
import ProtoSchema.Path
import ProtoSchema.Text.Utf8

set_option autoImplicit false

namespace ProtoSchema

/-- A place in a tree: the names that lead to it from the root. -/
abbrev Place := List String

namespace FileTree

/-- What stands at a place. -/
inductive Node where
  | file (contents : List UInt8) (executable : Bool)
  | directory
deriving DecidableEq, Repr

/-- Why an operation on a tree failed. -/
inductive Fault where
  | missing
  | notDirectory
  | isDirectory
  | occupied
  | badName
  /-- The bytes of a file are not UTF-8. -/
  | notText
deriving DecidableEq, Repr

end FileTree

/-- **A file tree** with a working directory. The root itself is always a directory. -/
structure FileTree where
  nodes : List (Place × FileTree.Node) := []
  here : Place := []
deriving DecidableEq, Repr, Inhabited

namespace FileTree

/-! ## Places -/

/-- What stands at a place. -/
def node? (t : FileTree) (place : Place) : Option Node :=
  if place.isEmpty then some .directory
  else (t.nodes.find? fun e => e.1 == place).map Prod.snd

/-- The tree with a node put at a place. -/
def put (t : FileTree) (place : Place) (n : Node) : FileTree :=
  { t with nodes := t.nodes.filter (fun e => e.1 != place) ++ [(place, n)] }

/-- Entries for other places do not matter to what is found at a place. -/
theorem find?_filter_ne (nodes : List (Place × Node)) (place other : Place) (h : place ≠ other) :
    (nodes.filter fun e => e.1 != place).find? (fun e => e.1 == other) =
      nodes.find? fun e => e.1 == other := by
  induction nodes with
  | nil => rfl
  | cons e nodes ih =>
    obtain ⟨p, n⟩ := e
    by_cases hp : p = place
    · subst hp
      simpa [h] using ih
    · by_cases ho : p = other
      · subst ho
        simp [hp]
      · simpa [hp, ho] using ih

/-- No entry is left for the place that the others were kept for. -/
theorem find?_filter_self (nodes : List (Place × Node)) (place : Place) :
    (nodes.filter fun e => e.1 != place).find? (fun e => e.1 == place) = none := by
  rw [List.find?_eq_none]
  intro e he
  simpa using (List.mem_filter.mp he).2

/-- **Looking after putting.** The node is found at its place, and every other place is as
before. The root is left out, since it is a directory whatever is put there. -/
theorem node?_put (t : FileTree) (place other : Place) (n : Node) (h : place ≠ []) :
    (t.put place n).node? other = if place = other then some n else t.node? other := by
  by_cases he : other = []
  · simp [node?, he, h]
  · have hput : (t.put place n).node? other =
        (List.find? (fun e => e.1 == other)
          ((t.nodes.filter fun e => e.1 != place) ++ [(place, n)])).map Prod.snd := by
      simp only [node?, put, List.isEmpty_iff, he, if_false]
    rw [hput, List.find?_append]
    by_cases ho : place = other
    · subst ho
      rw [find?_filter_self]
      simp
    · rw [find?_filter_ne t.nodes place other ho]
      simp [node?, he, ho]

/-- The tree without a place and all that is below it. -/
def remove (t : FileTree) (place : Place) : FileTree :=
  { t with nodes := t.nodes.filter fun e => !place.isPrefixOf e.1 }

/-- The longest name of a file, in bytes. -/
def maxNameSize : Nat := 255

/-- The longest path, in bytes. -/
def maxPathSize : Nat := 4095

/-- Whether a directory may hold an entry of the name. -/
def isName (name : String) : Bool := Utf8.size name ≤ maxNameSize

/-- The place that segments lead to from a place. All places but the last have to be
directories. -/
def walk (t : FileTree) (place : Place) : List String → Except Fault Place
  | [] => .ok place
  | segment :: rest =>
    match t.node? place with
    | none => .error .missing
    | some (.file _ _) => .error .notDirectory
    | some .directory =>
      if Path.isIdle segment then t.walk place rest
      else if segment == ".." then t.walk place.dropLast rest
      else if isName segment then t.walk (place ++ [segment]) rest
      else .error .badName

/-- Whether a path may be handed to a file system at all. -/
def isPath (path : String) : Bool :=
  !path.toList.contains (Char.ofNat 0) && Utf8.size path ≤ maxPathSize

/-- **The place of a path.** Relative paths start in the working directory, and the empty path
leads nowhere. -/
def resolve (t : FileTree) (path : String) : Except Fault Place :=
  if path.isEmpty then .error .missing
  else if !isPath path then .error .badName
  else t.walk (if Path.isAbsolute path then [] else t.here) (Path.segments path)

/-- What stands at the place of a path. -/
def lookup (t : FileTree) (path : String) : Except Fault Node := do
  let place ← t.resolve path
  match t.node? place with
  | some n => .ok n
  | none => .error .missing

/-- Whether a path leads to a file. -/
def isFile (t : FileTree) (path : String) : Bool :=
  match t.lookup path with
  | .ok (.file _ _) => true
  | _ => false

/-- Whether a path leads to a directory. -/
def isDirectory (t : FileTree) (path : String) : Bool :=
  match t.lookup path with
  | .ok .directory => true
  | _ => false

/-- Whether a path leads to a file that may be run. -/
def isExecutable (t : FileTree) (path : String) : Bool :=
  match t.lookup path with
  | .ok (.file _ executable) => executable
  | _ => false

/-! ## Reading and writing -/

/-- The bytes of a file. -/
def readBytes (t : FileTree) (path : String) : Except Fault (List UInt8) := do
  match ← t.lookup path with
  | .file contents _ => .ok contents
  | .directory => .error .isDirectory

/-- The text of a file, which has to be UTF-8. -/
def readText (t : FileTree) (path : String) : Except Fault String := do
  let contents ← t.readBytes path
  match Utf8.string? contents with
  | some s => .ok s
  | none => .error .notText

/-- The tree with the bytes of a file changed. A missing file starts out empty; its directory
exists, since the path led through it. -/
def modify (t : FileTree) (path : String) (change : List UInt8 → List UInt8) :
    Except Fault FileTree := do
  let place ← t.resolve path
  match t.node? place with
  | some (.file contents executable) => .ok (t.put place (.file (change contents) executable))
  | some .directory => .error .isDirectory
  | none => .ok (t.put place (.file (change []) false))

/-- **The tree with a file written**, in place of what the file held before. -/
def writeBytes (t : FileTree) (path : String) (contents : List UInt8) : Except Fault FileTree :=
  t.modify path fun _ => contents

/-- The tree with a text written to a file. -/
def writeText (t : FileTree) (path : String) (contents : String) : Except Fault FileTree :=
  t.writeBytes path (Utf8.bytes contents)

/-- The tree with bytes added at the end of a file. -/
def appendBytes (t : FileTree) (path : String) (more : List UInt8) : Except Fault FileTree :=
  t.modify path fun contents => contents ++ more

/-! ## Directories -/

/-- The tree with a directory made in one that exists. -/
def makeDirectory (t : FileTree) (path : String) : Except Fault FileTree := do
  let segs := ((Path.segments path).reverse.dropWhile (·.isEmpty)).reverse
  let place ←
    if path.isEmpty then .error .missing
    else if !isPath path then .error .badName
    else t.walk (if Path.isAbsolute path then [] else t.here) segs
  match t.node? place with
  | some _ => .error .occupied
  | none => .ok (t.put place .directory)

/-- Makes a directory, unless it is there. -/
def ensureDirectory (t : FileTree) (path : String) : Except Fault FileTree :=
  match t.makeDirectory path with
  | .ok t' => .ok t'
  | .error fault => if t.isDirectory path then .ok t else .error fault

/-- Makes a directory and the missing ones above it, trying at most `fuel` levels. -/
def ensureDirectories (t : FileTree) (path : String) : Nat → Except Fault FileTree
  | 0 => .error .missing
  | fuel + 1 =>
    if path.isEmpty then .ok t
    else
      match t.ensureDirectory path with
      | .error .missing =>
        match Path.parent? path with
        | none => .error .missing
        | some above => do
          let t' ← t.ensureDirectories above fuel
          t'.ensureDirectory path
      | outcome => outcome

/-- **The tree with a directory and all above it.** The empty path needs no directory. Every
level takes at least one character off the path, so there are no more levels than
characters. -/
def makeDirectories (t : FileTree) (path : String) : Except Fault FileTree :=
  t.ensureDirectories path (path.length + 1)

/-- The tree with the directory of a path made. -/
def makeParent (t : FileTree) (path : String) : Except Fault FileTree :=
  match Path.parent? path with
  | some above => t.makeDirectories above
  | none => .ok t

/-! ## Whole trees -/

/-- The tree whose working directory is empty and exists. -/
def withDirectory (here : Place) : FileTree :=
  { nodes := (List.range here.length).map fun i => (here.take (i + 1), Node.directory), here }

/-- The tree with a file at a path, whatever stood there, and its directories. -/
def install (t : FileTree) (path : String) (contents : List UInt8) (executable : Bool) : FileTree :=
  match (do
      let t' ← t.makeParent path
      let place ← t'.resolve path
      return t'.put place (.file contents executable) : Except Fault FileTree) with
  | .ok t' => t'
  | .error _ => t

/-- The path of a place from the root. -/
def absolutePath (place : Place) : String := "/" ++ String.intercalate "/" place

/-- The files that are new or changed since an earlier tree. -/
def changes (before after : FileTree) : List (Place × List UInt8) :=
  after.nodes.filterMap fun e =>
    match e.2, before.node? e.1 with
    | .directory, _ => none
    | .file contents _, some (.file old _) => if old == contents then none else some (e.1, contents)
    | .file contents _, _ => some (e.1, contents)

/-- The path of a place from the working directory, if it is below that. -/
def pathFromHere? (t : FileTree) (place : Place) : Option String :=
  if t.here.isPrefixOf place then some (String.intercalate "/" (place.drop t.here.length)) else none

end FileTree

end ProtoSchema
