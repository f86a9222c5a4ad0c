/-
The command line program.

The program loads the files below the working directory and those that its arguments name
into a tree, runs the compiler on it and writes the files that the run changed. All decisions
are the compiler's.
-/
import ProtoSchema.Run

set_option autoImplicit false

namespace ProtoSchema

namespace Program

/-- The place of an absolute path. -/
def placeOf (path : String) : Place := (Path.segments path).filter fun s => !Path.isIdle s

/-- Whether a file is a script that may be run. -/
def isScript (contents : List UInt8) : Bool := contents.take 2 == [35, 33]

/-- The tree with a file of the system, if it can be read. -/
def loadFile (t : FileTree) (path : String) : IO FileTree := do
  try
    let contents := (← IO.FS.readBinFile path).toList
    return t.install path contents (isScript contents)
  catch _ => return t

/-- The tree with the files of the system below a path. -/
partial def loadBelow (t : FileTree) (path : String) : IO FileTree := do
  let mut t := t
  for entry in ← (IO.FS.DirEntry.path { root := path, fileName := "" }).readDir do
    let inner := Path.join path entry.fileName
    if ← entry.path.isDir then
      t ← loadBelow (t.put (placeOf inner) .directory) inner
    else t ← loadFile t inner
  return t

/-- The user's directory for settings. -/
def userDirectory : IO String := do
  match ← IO.getEnv "XDG_CONFIG_HOME" with
  | some path => return path
  | none => return Path.join ((← IO.getEnv "HOME").getD "/") ".config"

/-- Writes the files that a run changed. -/
def store (before after : FileTree) : IO Unit := do
  for (place, contents) in FileTree.changes before after do
    let path := FileTree.absolutePath place
    match Path.parent? path with
    | some above => IO.FS.createDirAll above
    | none => pure ()
    IO.FS.writeBinFile path ⟨contents.toArray⟩

/-- The exit status of a run, whose complaint goes to the error stream. -/
def start (arguments : List String) : IO UInt32 := do
  match CommandLine.parse arguments with
  | .error _ =>
    IO.eprintln "error: invalid arguments"
    return 2
  | .ok line =>
    let here := (← IO.currentDir).toString
    let user ← userDirectory
    let named := Settings.standardPath user :: line.settingsFile.toList ++ line.inputs
    let below ← loadBelow (FileTree.withDirectory (placeOf here)) here
    let before ← named.foldlM loadFile below
    let (outcome, after) := (line.run user).runOn before
    store before after
    match outcome with
    | .ok _ => return 0
    | .error e =>
      IO.eprintln ("Error: " ++ e.message?.getD "the run failed")
      return 1

end Program

end ProtoSchema

/-- Runs the compiler on the arguments of the program. -/
def main (arguments : List String) : IO UInt32 := ProtoSchema.Program.start arguments
