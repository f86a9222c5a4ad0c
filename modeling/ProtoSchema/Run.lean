/-
Runs of the compiler.

A run reads its settings, evaluates the sources, compiles and writes the documents and calls
the protocol compiler if one of its outputs is asked for. It is a computation on a file tree,
so that all it reads and writes is in its type.

What a run relies on and what it does to the outside are parameters: the programs that evaluate its
sources (`Programs`), and how it writes files and starts the protocol compiler (`Actions`). `run` is
the run that writes to the tree and finds the protocol compiler among its tools.
-/
import ProtoSchema.Bundle.Write
import ProtoSchema.CommandLine
import ProtoSchema.LogFilter
import ProtoSchema.Protoc
import ProtoSchema.Settings
import ProtoSchema.Source.Evaluate

set_option autoImplicit false

namespace ProtoSchema

/-- **Why a run failed.** -/
inductive RunFailure where
  | settings (cause : Settings.Error)
  | badLogLevel (level : String)
  | logFile
  | stage (cause : Failure)
  | missingOutputDir
  /-- Documents failed in a run that kept going. -/
  | filesFailed (count : Nat)
deriving DecidableEq, Repr

namespace RunFailure

/-- The wording of a failure, where it has one. -/
def message? : RunFailure → Option String
  | .settings cause => cause.message?
  | .badLogLevel _ => none
  | .logFile => none
  | .stage cause => cause.message?
  | .missingOutputDir =>
    some "must set --proto_out if passing in .jsonnet, .ncl or .json files"
  | .filesFailed count => some (Nat.repr count ++ " file(s) failed to compile")

end RunFailure

namespace CommandLine

/-- Where generated files go: the directory of the command line, or else that of the
settings. -/
def outputDirWith (line : CommandLine) (settings : Settings) : Option String :=
  line.outputDir.orElse fun _ => settings.outputDir

/-- Where jsonnet imports are looked up, those of the settings first. -/
def searchPathsWith (line : CommandLine) (settings : Settings) : List String :=
  settings.searchPaths ++ line.searchPaths

/-- A stage of a run. -/
def stage {α : Type} (task : FileTask Failure α) : FileTask RunFailure α :=
  ExceptT.adapt RunFailure.stage task

/-- Checks the log filter and opens the log file, which is created if it is missing. -/
def startLog (level : String) (file : Option String) : FileTask RunFailure Unit := do
  if !LogFilter.isValid level then throw (.badLogLevel level)
  match file with
  | none => return
  | some path => FileTask.change (fun t => t.appendBytes path []) RunFailure.logFile

/-- The start of a run: its settings, and its log. -/
def prepare (line : CommandLine) (userDirectory : String) : FileTask RunFailure Settings := do
  let settings ← ExceptT.adapt RunFailure.settings (Settings.load userDirectory line.settingsFile)
  startLog (line.logLevel.getD settings.logLevel) settings.logFile
  return settings

/-- **The bundle of a run's inputs.** -/
def evaluate (line : CommandLine) (settings : Settings) (programs : Programs) :
    FileTask Failure Bundle :=
  (Inputs.ofPaths line.inputs).evaluate programs (line.searchPathsWith settings)
    settings.nickelTool

/-- **What a run does to the outside**, apart from evaluating its inputs. -/
structure Actions where
  /-- Writes files below a directory. -/
  write : String → List GeneratedFile → FileTask Failure (List String)
  startProtoc : Protoc → FileTask Failure Unit

/-- Files are written to the tree, and the protocol compiler is one of the tools. -/
def Actions.standard (tools : Tools) : Actions where
  write := GeneratedFile.writeAll
  startProtoc protoc := tools.call protoc.tool protoc.arguments

/-- **Generates files from the inputs** and gives their names. Files that compile are written
even if others fail. -/
def generateWith (line : CommandLine) (settings : Settings) (directory : String)
    (programs : Programs) (actions : Actions) : FileTask RunFailure (List String) := do
  let bundle ← stage (line.evaluate settings programs)
  let report ← stage (FileTask.lift (bundle.compile line.keepGoing))
  let _ ← stage (actions.write directory report.generated)
  if report.isSuccess then return report.generated.map GeneratedFile.name
  else throw (.filesFailed report.failures.length)

/-- The invocation of the protocol compiler, after the files that it needs are generated. -/
def invocationWith (line : CommandLine) (settings : Settings) (programs : Programs)
    (actions : Actions) : FileTask RunFailure Protoc :=
  let inputs := Inputs.ofPaths line.inputs
  let protoc : Protoc := {
    tool := settings.protocTool, arguments := inputs.others ++ line.protocArguments }
  if inputs.hasSchemas then
    match line.outputDirWith settings with
    | none => throw .missingOutputDir
    | some directory => do
      let names ← line.generateWith settings directory programs actions
      return protoc.addFiles names
  else return protoc

/-- A run with the given programs and actions, and with the user's directory for settings. -/
def runWith (line : CommandLine) (userDirectory : String) (programs : Programs)
    (actions : Actions) : FileTask RunFailure Unit := do
  let settings ← line.prepare userDirectory
  let protoc ← line.invocationWith settings programs actions
  if protoc.isRequested then stage (actions.startProtoc protoc)

/-- **A run.** -/
def run (line : CommandLine) (userDirectory : String) (programs : Programs := .standard) :
    FileTask RunFailure Unit :=
  line.runWith userDirectory programs (.standard programs.tools)

end CommandLine

/-- The version of the compiler. -/
def version : String := "0.1.0"

end ProtoSchema
