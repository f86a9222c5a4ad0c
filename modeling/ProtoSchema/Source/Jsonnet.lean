/-
Sources in jsonnet.

All scripts of a run are imported by one generated script, which maps the name of each to the
documents it stands for. Evaluating that script is the work of an interpreter, which is a parameter
here (`Interpreter`). The run makes the script's text, says where imports are looked up, and reads
the bundle from the JSON text that the interpreter answers.
-/
import ProtoSchema.Bundle.Basic
import ProtoSchema.FileTask
import ProtoSchema.Json.Printer

set_option autoImplicit false

namespace ProtoSchema

namespace Jsonnet

/-- The function of the generated script that turns an imported value into documents. -/
def manifestHelper : String :=
  "\nlocal manifest(file) =\n" ++
  "    if std.isArray(file)\n" ++
  "    then [f.manifestProtoIR() for f in file]\n" ++
  "    else [file.manifestProtoIR()];"

/-- The variable that holds the script of an index. -/
def importName (index : Nat) : String := "f" ++ Nat.repr index

/-- The line that imports a script. -/
def importLine (index : Nat) (path : String) : String :=
  "local " ++ importName index ++ " = import " ++ Json.quoted path ++ ";\n"

/-- The line that lists the documents of a script. -/
def entryLine (index : Nat) (name : String) : String :=
  "    " ++ Json.quoted name ++ ": manifest(" ++ importName index ++ "),\n"

/-- **The script that evaluates scripts**, each given by its name in the bundle and the path
it is imported from. A text in JSON quotes is quoted for jsonnet too. -/
def entryScript (scripts : List (String × String)) : String :=
  String.join (scripts.mapIdx fun i s => importLine i s.2) ++ manifestHelper ++ "\n\n\x7b\n" ++
    String.join (scripts.mapIdx fun i s => entryLine i s.1) ++ "\x7d\n"

/-- **The directories that imports are looked up in**, best first. A path given later is
looked up earlier, and the bundled libraries last. -/
def libraryPaths (searchPaths : List String) (bundled : String) : List String :=
  searchPaths.reverse ++ [bundled]

/-- **An interpreter of jsonnet.** It sees the files of a tree and changes none. -/
structure Interpreter where
  /-- The directory in which the bundled libraries are laid out. -/
  libraries : FileTree → Except FileTree.Fault String
  /-- The JSON text of the value of a script, with imports looked up in directories, best first;
  `none` if the script fails. -/
  manifest : List String → String → FileTree → Option String

/-- No interpreter: every script fails. -/
def Interpreter.absent : Interpreter where
  libraries _ := .ok "/tmp"
  manifest _ _ _ := none

/-- The generated script for scripts, which are imported by their absolute paths. -/
def entryFor (t : FileTree) (scripts : List String) : String :=
  entryScript (scripts.map fun script =>
    (script, Path.join (FileTree.absolutePath t.here) script))

/-- **The bundle that an interpreter makes of scripts** on a tree. -/
def bundleOn (interpreter : Interpreter) (searchPaths scripts : List String) (t : FileTree) :
    Except Failure Bundle := do
  let directory ← (interpreter.libraries t).mapError fun _ => .inputOutput
  match interpreter.manifest (libraryPaths searchPaths directory) (entryFor t scripts) t with
  | none => .error .jsonnet
  | some text => (Bundle.ofText text).mapError .json

/-- **The bundle that scripts evaluate to.** Without scripts there need be no interpreter. -/
def evaluate (interpreter : Interpreter) (searchPaths scripts : List String) :
    FileTask Failure Bundle := do
  if scripts.isEmpty then return []
  FileTask.lift (bundleOn interpreter searchPaths scripts (← get))

end Jsonnet

end ProtoSchema
