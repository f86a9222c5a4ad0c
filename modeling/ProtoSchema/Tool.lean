/-
Tools that a run calls.

How tools are found and run is not the run's business, so that both are parameters (`Tools`). A tool
whose output is wanted is run with its streams captured; one that writes to the terminal is run for
its status alone. Either way the changes it makes to files are kept.

The tools at hand are the programs and scripts of the tree (`Tools.ofTree`).
-/
import ProtoSchema.Failure
import ProtoSchema.FileTask
import ProtoSchema.Script.Run

set_option autoImplicit false

namespace ProtoSchema

namespace Tool

/-- **What a tool has left** when it has run, apart from the files that it changed. -/
structure Outcome where
  output : List UInt8 := []
  errors : List UInt8 := []
  status : Nat := 0
deriving DecidableEq, Repr, Inhabited

/-- **The output of a tool** that has run. A tool that failed has said why on its error
stream. -/
def outputOf (tool : String) (outcome : Outcome) : Except Failure (List UInt8) :=
  if outcome.status == 0 then .ok outcome.output
  else .error (.toolFailed tool outcome.status (Utf8.lossy outcome.errors))

end Tool

/-- **The tools that a run can start.** -/
structure Tools where
  /-- The path at which a tool is found. -/
  locate : String → FileTask Failure String
  /-- Runs the program at a path with arguments. -/
  execute : String → List String → FileTask Failure Tool.Outcome

/-- **Runs a tool for its effects.** -/
def Tools.call (tools : Tools) (tool : String) (arguments : List String) :
    FileTask Failure Unit := do
  let path ← tools.locate tool
  let outcome ← tools.execute path arguments
  if outcome.status ≠ 0 then throw (.toolExited tool outcome.status)

/-! ## Tools of the tree -/

namespace Tool

/-- The path that the name of a tool stands for. A name of one component is looked up in the
search directory, an absolute one is kept, and any other leads from the working directory
through its components. -/
def pathOf (t : FileTree) (tool : String) : String :=
  if !Path.isCompound tool then Script.searchPath t tool
  else if Path.isAbsolute tool then tool
  else (Path.components tool).foldl Path.join (FileTree.absolutePath t.here)

/-- **The path of a tool**, at which a program has to be. -/
def locate (tool : String) : FileTask Failure String := do
  let t ← get
  let path := pathOf t tool
  if Script.isProgram t path then return path else throw (.toolNotFound tool)

/-- Whether a text can be an argument of a process, which ends its arguments with a null
character. -/
def isArgument (text : String) : Bool := !text.toList.contains (Char.ofNat 0)

/-- Runs the file at a path. -/
def execute (path : String) (arguments : List String) : FileTask Failure Outcome := do
  if !arguments.all isArgument then throw .inputOutput
  match Script.execute (← get) path arguments with
  | some done =>
    set done.tree
    return { output := done.output, errors := done.errors, status := done.status }
  | none => throw .inputOutput

end Tool

/-- The programs and scripts of the tree as tools. -/
def Tools.ofTree : Tools where
  locate := Tool.locate
  execute := Tool.execute

end ProtoSchema
