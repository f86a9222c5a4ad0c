/-
Evaluating sources.

Each kind of source has its own evaluation; the bundles of the kinds are laid over each other
in a fixed order, jsonnet first and JSON last. Scripts are evaluated by programs that are parameters
(`Programs`). JSON sources are documents already and are only read.
-/
import ProtoSchema.Source.Jsonnet
import ProtoSchema.Source.Kind
import ProtoSchema.Source.Nickel

set_option autoImplicit false

namespace ProtoSchema

/-- **The programs that evaluation relies on**: the tools, and an interpreter of jsonnet. -/
structure Programs where
  tools : Tools
  interpreter : Jsonnet.Interpreter

/-- The programs at hand: the tools of the tree, and no interpreter. -/
def Programs.standard : Programs where
  tools := .ofTree
  interpreter := .absent

namespace JsonSource

/-- The bundle with what a file holds laid over it. -/
def addFile (bundle : Bundle) (path : String) : FileTask Failure Bundle := do
  let text ← FileTask.ask (fun t => t.readText path) Failure.inputOutput
  match Json.ofText text with
  | .error e => throw (.inFile path (.json e))
  | .ok value => do
    let found ← FileTask.lift (Bundle.ofJson path value)
    return bundle.overlay found

/-- **The bundle that JSON files hold.** -/
def evaluate (paths : List String) : FileTask Failure Bundle := paths.foldlM addFile []

end JsonSource

/-- **The bundle of all inputs.** Documents of a later kind replace those of an earlier one
under the same name. -/
def Inputs.evaluate (inputs : Inputs) (programs : Programs) (searchPaths : List String)
    (nickelTool : String) : FileTask Failure Bundle := do
  let scripted ← Jsonnet.evaluate programs.interpreter searchPaths inputs.jsonnet
  let exported ← Nickel.evaluate nickelTool inputs.nickel programs.tools
  let read ← JsonSource.evaluate inputs.json
  return (scripted.overlay exported).overlay read

end ProtoSchema
