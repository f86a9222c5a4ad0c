/-
Settings of the compiler.

Settings are read from a TOML document with a section for each concern. Every section and
every key may be left out, and unknown ones are ignored. A section may also be written as a
list of its values in order; a date in its place has none of its keys and counts as empty.
-/
import ProtoSchema.FileTask
import ProtoSchema.Toml.Printer
import ProtoSchema.Toml.Reader

set_option autoImplicit false

namespace ProtoSchema

/-- **The settings.** -/
structure Settings where
  outputDir : Option String := none
  nickelTool : String := "nickel"
  /-- Where jsonnet imports are looked up, before the paths of the command line. -/
  searchPaths : List String := []
  protocTool : String := "protoc"
  logLevel : String := "warn"
  logFile : Option String := none
deriving DecidableEq, Repr, Inhabited

namespace Settings

/-- Why settings could not be loaded. -/
inductive Error where
  /-- The file cannot be read. -/
  | unreadable
  /-- The file is not TOML, or a key has a value of the wrong kind. -/
  | malformed
  /-- The file that was asked for is not there. -/
  | notFound (path : String)
deriving DecidableEq, Repr

/-- The wording of an error, where it has one. -/
def Error.message? : Error → Option String
  | .unreadable => none
  | .malformed => none
  | .notFound path => some ("Config file not found at: " ++ path)

/-! ## Reading -/

/-- The values of a section, by the names of its keys; `none` if it is no section. -/
def sectionValues (keys : List String) : Toml.Value → Option (List (String × Toml.Value))
  | .table entries => some entries
  | .array items => some (keys.zip items)
  | .datetime _ => some []
  | _ => none

/-- The values of a section of a document, which may be missing. -/
def section? (doc : List (String × Toml.Value)) (name : String) (keys : List String) :
    Option (List (String × Toml.Value)) :=
  match Toml.Value.find? doc name with
  | none => some []
  | some v => sectionValues keys v

/-- The string that a value is. -/
def string? : Toml.Value → Option String
  | .string s => some s
  | _ => none

/-- The strings that a value lists. -/
def strings? : Toml.Value → Option (List String)
  | .array items => items.mapM string?
  | _ => none

/-- The value of a key, or what stands for a missing one; `none` if it is of the wrong kind. -/
def valueOr {α : Type} (values : List (String × Toml.Value)) (key : String)
    (read : Toml.Value → Option α) (missing : α) : Option α :=
  match Toml.Value.find? values key with
  | none => some missing
  | some v => read v

/-- The settings of a document. -/
def ofDocument? (doc : List (String × Toml.Value)) : Option Settings := do
  let standard : Settings := {}
  let output ← section? doc "output" ["dir"]
  let frontend ← section? doc "frontend" ["nickel_bin", "jpaths"]
  let protoc ← section? doc "protoc" ["bin"]
  let logging ← section? doc "logging" ["level", "file"]
  let outputDir ← valueOr output "dir" (fun v => (string? v).map some) standard.outputDir
  let nickelTool ← valueOr frontend "nickel_bin" string? standard.nickelTool
  let searchPaths ← valueOr frontend "jpaths" strings? standard.searchPaths
  let protocTool ← valueOr protoc "bin" string? standard.protocTool
  let logLevel ← valueOr logging "level" string? standard.logLevel
  let logFile ← valueOr logging "file" (fun v => (string? v).map some) standard.logFile
  return { outputDir, nickelTool, searchPaths, protocTool, logLevel, logFile }

/-- **The settings that a text holds.** -/
def ofText (text : String) : Except Error Settings :=
  match (Toml.ofText? text).bind ofDocument? with
  | some s => .ok s
  | none => .error .malformed

/-! ## Writing -/

/-- The line of a key. -/
def keyLine (key value : String) : String := key ++ " = " ++ value ++ "\n"

/-- The line of a key that may be unset. -/
def optionalLine (key : String) : Option String → String
  | some s => keyLine key (Toml.stringText s)
  | none => ""

/-- **The text of settings.** Keys that are unset are left out; the others are written even if
they have their standard values. -/
def toText (s : Settings) : String :=
  "[output]\n" ++ optionalLine "dir" s.outputDir ++
  "\n[frontend]\n" ++ keyLine "nickel_bin" (Toml.stringText s.nickelTool) ++
  keyLine "jpaths" (Toml.stringsText s.searchPaths) ++
  "\n[protoc]\n" ++ keyLine "bin" (Toml.stringText s.protocTool) ++
  "\n[logging]\n" ++ keyLine "level" (Toml.stringText s.logLevel) ++
  optionalLine "file" s.logFile

/-! ## Files -/

/-- The standard place of the settings below the user's directory for settings. -/
def standardPath (userDirectory : String) : String :=
  Path.join (Path.join userDirectory "protoweave") "config.toml"

/-- The settings in a file. -/
def ofFile (path : String) : FileTask Error Settings := do
  let text ← FileTask.ask (fun t => t.readText path) Error.unreadable
  FileTask.lift (ofText text)

/-- **The settings of a run.** A file that is asked for has to be there; otherwise the file in
the standard place is read if there is one. -/
def load (userDirectory : String) (explicit : Option String) : FileTask Error Settings := do
  let tree ← get
  match explicit with
  | some path => if tree.isFile path then ofFile path else throw (.notFound path)
  | none =>
    let path := standardPath userDirectory
    if tree.isFile path then ofFile path else return {}

end Settings

end ProtoSchema
