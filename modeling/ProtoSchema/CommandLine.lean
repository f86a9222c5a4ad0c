/-
The command line.

Arguments are read from left to right. An option that takes a value, and likewise a run of
inputs, stays open until something else is recognised after it; only then is it checked. An
argument that is no option at all is therefore reported before a fault of what stands open,
and a fault of what stands open before anything that a later option asks for.
-/

set_option autoImplicit false

namespace ProtoSchema

/-- **The arguments of a run.** -/
structure CommandLine where
  outputDir : Option String := none
  searchPaths : List String := []
  settingsFile : Option String := none
  logLevel : Option String := none
  keepGoing : Bool := false
  inputs : List String := []
  /-- What is passed through to the protocol compiler. -/
  protocArguments : List String := []
deriving DecidableEq, Repr, Inhabited

namespace CommandLine

/-- **Why a command line starts no run.** -/
inductive Error where
  /-- An option that is given once at most is given twice. -/
  | conflict
  /-- A value is missing or empty. -/
  | invalidValue
  /-- A switch has a value. -/
  | tooManyValues
  | unknownArgument
  | helpRequested
  | versionRequested
deriving DecidableEq, Repr

/-- The options that take a value. -/
inductive ValueOption where
  | outputDir
  | searchPath
  | settingsFile
  | logLevel
deriving DecidableEq, Repr

/-- The options that take none. -/
inductive Switch where
  | keepGoing
  | help
  | version
deriving DecidableEq, Repr

/-- An option. -/
inductive Opt where
  | valued (o : ValueOption)
  | switch (s : Switch)
deriving DecidableEq, Repr

/-- The option of a long name. -/
def long? : String → Option Opt
  | "proto_out" | "proto-out" => some (.valued .outputDir)
  | "jpath" => some (.valued .searchPath)
  | "config" => some (.valued .settingsFile)
  | "log-level" => some (.valued .logLevel)
  | "keep-going" => some (.switch .keepGoing)
  | "help" => some (.switch .help)
  | "version" => some (.switch .version)
  | _ => none

/-- The option of a letter. -/
def short? (c : Char) : Option Opt :=
  if c = 'J' then some (.valued .searchPath)
  else if c = 'h' then some (.switch .help)
  else if c = 'V' then some (.switch .version)
  else none

/-! ## Values -/

/-- A path is never empty. -/
def checkPath (value : String) : Except Error String :=
  if value.isEmpty then .error .invalidValue else .ok value

/-- An option that is given once is not set before. -/
def checkUnset {α : Type} (current : Option α) : Except Error Unit :=
  if current.isSome then .error .conflict else .ok ()

/-- The command line with the value of an option. -/
def setValue (line : CommandLine) (option : ValueOption) (value : String) :
    Except Error CommandLine := do
  match option with
  | .outputDir =>
    checkUnset line.outputDir
    return { line with outputDir := some (← checkPath value) }
  | .searchPath => return { line with searchPaths := line.searchPaths ++ [← checkPath value] }
  | .settingsFile =>
    checkUnset line.settingsFile
    return { line with settingsFile := some (← checkPath value) }
  | .logLevel =>
    checkUnset line.logLevel
    return { line with logLevel := some value }

/-- The command line with a switch. -/
def setSwitch (line : CommandLine) : Switch → Except Error CommandLine
  | .keepGoing => if line.keepGoing then .error .conflict else .ok { line with keepGoing := true }
  | .help => .error .helpRequested
  | .version => .error .versionRequested

/-! ## What stands open -/

/-- **What has been read but not checked.** -/
inductive Pending where
  | nothing
  /-- An option whose value is yet to come. -/
  | option (o : ValueOption)
  | value (o : ValueOption) (v : String)
  | inputs (paths : List String)
deriving DecidableEq, Repr

/-- The command line with what stood open. -/
def settle (line : CommandLine) : Pending → Except Error CommandLine
  | .nothing => .ok line
  | .option _ => .error .invalidValue
  | .value o v => line.setValue o v
  | .inputs paths => do
    let checked ← paths.mapM checkPath
    return { line with inputs := line.inputs ++ checked }

/-- A command line that is being read. -/
structure Reading where
  line : CommandLine := {}
  pending : Pending := .nothing
deriving DecidableEq, Repr, Inhabited

namespace Reading

/-- The reading after an option, with a value if one is attached to it. -/
def addOption (r : Reading) (option : Opt) (attached : Option String) : Except Error Reading := do
  match option, attached with
  | .valued o, some v =>
    let line ← r.line.settle r.pending
    return { line := ← line.setValue o v }
  | .valued o, none => return { line := ← r.line.settle r.pending, pending := .option o }
  | .switch _, some _ => .error .tooManyValues
  | .switch s, none =>
    let line ← r.line.settle r.pending
    return { line := ← line.setSwitch s }

/-- The reading after an argument that is no option: the value of an open option, or an
input. -/
def addPlain (r : Reading) (argument : String) : Except Error Reading := do
  match r.pending with
  | .option o => return { r with pending := .value o argument }
  | .inputs paths => return { r with pending := .inputs (paths ++ [argument]) }
  | other => return { line := ← r.line.settle other, pending := .inputs [argument] }

/-- The reading after a long option, given without its two dashes. -/
def addLong (r : Reading) (cs : List Char) : Except Error Reading :=
  let name := cs.takeWhile (· ≠ '=')
  let attached := match cs.dropWhile (· ≠ '=') with
    | [] => none
    | _ :: v => some (String.ofList v)
  match long? (String.ofList name) with
  | none => .error .unknownArgument
  | some option => r.addOption option attached

/-- The reading after short options, given without their dash. A value follows its letter
directly or behind an equals sign. A switch never lets the letters after it be reached. -/
def addShort (r : Reading) : List Char → Except Error Reading
  | [] => .error .unknownArgument
  | c :: rest =>
    match short? c with
    | none => .error .unknownArgument
    | some (.switch s) => r.addOption (.switch s) none
    | some (.valued o) =>
      let attached := match rest with
        | [] => none
        | '=' :: v => some (String.ofList v)
        | v => some (String.ofList v)
      r.addOption (.valued o) attached

/-- The reading after an argument. -/
def add (r : Reading) (argument : String) : Except Error Reading :=
  match argument.toList with
  | '-' :: '-' :: rest => r.addLong rest
  | '-' :: c :: rest => r.addShort (c :: rest)
  | _ => r.addPlain argument

/-- The command line that a reading ends with. -/
def finish (r : Reading) (protocArguments : List String) : Except Error CommandLine := do
  return { ← r.line.settle r.pending with protocArguments }

end Reading

/-- Reads arguments after others. Two dashes leave the rest for the protocol compiler. -/
def parseFrom (r : Reading) : List String → Except Error CommandLine
  | [] => r.finish []
  | argument :: rest =>
    if argument == "--" then r.finish rest
    else do
      let r ← r.add argument
      parseFrom r rest

/-- **The command line that arguments make.** -/
def parse (arguments : List String) : Except Error CommandLine := parseFrom {} arguments

end CommandLine

end ProtoSchema
