/-
Writing generated files, and documents to files of their own.
-/
import ProtoSchema.Bundle.Compile
import ProtoSchema.FileTask
import ProtoSchema.Schema.ToJson

set_option autoImplicit false

namespace ProtoSchema

namespace GeneratedFile

/-- Writes a generated file below a directory and gives its path. -/
def write (directory : String) (f : GeneratedFile) : FileTask Failure String := do
  let path := Path.join directory f.name
  FileTask.change (fun t => t.makeParent path) Failure.inputOutput
  FileTask.change (fun t => t.writeText path f.contents) Failure.inputOutput
  return path

/-- **Writes generated files below a directory** and gives their paths. The first failure ends
the writing; files and directories made before it stay. -/
def writeAll (directory : String) (files : List GeneratedFile) : FileTask Failure (List String) :=
  files.mapM (write directory)

end GeneratedFile

namespace Schema

/-- The document that a file holds. -/
def File.read (path : String) : FileTask Failure File := do
  let text ← FileTask.ask (fun t => t.readText path) Failure.inputOutput
  match File.ofText text with
  | .ok f => return f
  | .error e => throw (.json e)

/-- Writes a document to a file. -/
def File.save (f : File) (path : String) : FileTask Failure Unit := do
  FileTask.change (fun t => t.makeParent path) Failure.inputOutput
  FileTask.change (fun t => t.writeText path f.toSavedText) Failure.inputOutput

end Schema

end ProtoSchema
