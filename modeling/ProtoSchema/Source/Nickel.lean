/-
Sources in nickel.

Each script is exported to JSON by the nickel tool, in a process of its own. Imports are
looked up in the working directory, the directory of the script and the one above that.
-/
import ProtoSchema.Bundle.Basic
import ProtoSchema.Json.Reader
import ProtoSchema.Tool

set_option autoImplicit false

namespace ProtoSchema

namespace Nickel

/-- The directory of a script. -/
def directoryOf (script : String) : String :=
  match Path.parent? script with
  | none | some "" => "."
  | some above => above

/-- **The arguments that export a script** as JSON. -/
def exportArguments (script : String) : List String :=
  let dir := directoryOf script
  ["export", "--import-path", ".", "--import-path", dir, "--import-path", Path.join dir "..",
    "--format", "json", script]

/-- The documents that a script exports. Only what the tool complains about is a failure of the
script. -/
def exportScript (tools : Tools) (tool path script : String) : FileTask Failure (List Json) := do
  let outcome ← tools.execute path (exportArguments script)
  match Tool.outputOf tool outcome with
  | .error e => throw (.inFile script e)
  | .ok output =>
    match Json.ofBytes output with
    | .error e => throw (.json e)
    | .ok exported => FileTask.lift (Bundle.namedDocuments script exported)

/-- The bundle with the documents of a script. A script without documents is left out. -/
def addScript (tools : Tools) (tool path : String) (bundle : Bundle) (script : String) :
    FileTask Failure Bundle := do
  let docs ← exportScript tools tool path script
  return if docs.isEmpty then bundle else bundle.insert script docs

/-- **The bundle that scripts evaluate to.** Without scripts the tool need not be there. -/
def evaluate (tool : String) (scripts : List String) (tools : Tools := .ofTree) :
    FileTask Failure Bundle := do
  if scripts.isEmpty then return []
  let path ← tools.locate tool
  scripts.foldlM (addScript tools tool path) []

end Nickel

end ProtoSchema
