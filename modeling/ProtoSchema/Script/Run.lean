/-
Running scripts and programs.

A file can be run if it is a standard program or if its first line names an interpreter that
can be run. Scripts may loop forever and may call each other, so running takes fuel; a script
that uses it up ends with an error status, as if it had been stopped.
-/
import ProtoSchema.Script.Session

set_option autoImplicit false

namespace ProtoSchema

namespace Script

/-- The directories of the standard programs. -/
def standardDirectories : List String := ["/bin", "/usr/bin"]

/-- The name of the standard program at a path. A path that goes on behind a name leads to no
program. -/
def standardName? (path : String) : Option String := do
  let above ← Path.parent? path
  let name ← Path.fileName? path
  if standardDirectories.contains above && (Path.segments path).getLast? == some name then
    some name
  else none

/-- The names of the shell. -/
def shellNames : List String := ["sh", "dash", "bash"]

/-- Whether a standard program is at a path. -/
def isStandard (path : String) : Bool :=
  match standardName? path with
  | some name => shellNames.contains name || programNames.contains name
  | none => false

/-- The interpreter that the first line of a file names, with its argument if there is one. -/
def interpreter? (contents : List UInt8) : Option (String × List String) := do
  let line := (Utf8.lossy (contents.takeWhile (· ≠ 10))).toList
  match line with
  | '#' :: '!' :: rest =>
    let trimmed := ((rest.dropWhile isGap).reverse.dropWhile isGap).reverse
    let path := trimmed.takeWhile (!isGap ·)
    let argument := (trimmed.dropWhile (!isGap ·)).dropWhile isGap
    if path.isEmpty then none
    else
      some (String.ofList path, if argument.isEmpty then [] else [String.ofList argument])
  | _ => none

/-- The directory that commands without a slash are looked up in, below the working
directory. -/
def searchDirectory : String := "bin"

/-- The path of a name in the search directory. -/
def searchPath (t : FileTree) (name : String) : String :=
  Path.join (FileTree.absolutePath (t.here ++ [searchDirectory])) name

/-- Whether a program is at a path: a standard one or an executable file. -/
def isProgram (t : FileTree) (path : String) : Bool := isStandard path || t.isExecutable path

/-- The path of a command. A name with a slash is a path itself, any other name is looked up in
the search directory. -/
def commandPath? (t : FileTree) (name : String) : Option String :=
  if name.toList.contains '/' then some name
  else if !name.isEmpty && isProgram t (searchPath t name) then some (searchPath t name)
  else none

/-- Whether a loop goes on after a round. -/
def Flow.goesOn : Flow → Bool
  | .next | .nextRound => true
  | .leave | .endLoop => false

/-- How a script goes on after a loop. -/
def Flow.afterLoop : Flow → Flow
  | .leave => .leave
  | _ => .next

/-- How a session goes on after a command that may end a strict script. -/
def Session.settled (s : Session) (tested : Bool) : Session × Flow :=
  (s, if s.strict && !tested && s.status ≠ 0 then .leave else .next)

/-- A builtin command of the shell that runs no other command; `none` if there is no such
command. -/
def builtin? (s : Session) (name : String) (arguments : List String) : Option (Session × Flow) :=
  match name with
  | ":" | "true" => some ({ s with status := 0 }, .next)
  | "false" => some ({ s with status := 1 }, .next)
  | "echo" => some ({ s.write (echoBytes arguments) with status := 0 }, .next)
  | "printf" => some ({ s.write (printfBytes arguments) with status := 0 }, .next)
  | "test" => some ({ s with status := testStatus s.tree arguments }, .next)
  | "[" => some ({ s with status := testStatus s.tree arguments.dropLast }, .next)
  | "exit" =>
    let status := match arguments with
      | code :: _ => (wholeNumber code % 256).toNat
      | [] => s.status
    some ({ s with status }, .leave)
  | "shift" =>
    let count := match arguments with
      | n :: _ => (wholeNumber n).toNat
      | [] => 1
    if count ≤ s.arguments.length then
      some ({ s with arguments := s.arguments.drop count, status := 0 }, .next)
    else some ({ s with status := 2 }, .leave)
  | "break" => some ({ s with status := 0 }, .endLoop)
  | "continue" => some ({ s with status := 0 }, .nextRound)
  | "set" =>
    let strict := match arguments with
      | option :: _ =>
        if option.toList.head? == some '-' && option.toList.contains 'e' then true
        else if option.toList.head? == some '+' && option.toList.contains 'e' then false
        else s.strict
      | [] => s.strict
    match arguments with
    | "--" :: rest => some ({ s with arguments := rest, strict := s.strict, status := 0 }, .next)
    | _ => some ({ s with strict, status := 0 }, .next)
  | "export" | "unset" | "umask" | "wait" | "trap" => some ({ s with status := 0 }, .next)
  | _ => none

mutual

/-- Runs a command. A `tested` command's failure is for its context to judge. -/
def run : Nat → Bool → Command → Session → Session × Flow
  | 0, _, _, s => ({ s with status := 2 }, .leave)
  | fuel + 1, tested, c, s =>
    match c with
    | .skip => (s, .next)
    | .simple assignments words rs =>
      let s := assignments.foldl (fun s (name, w) =>
        { s with bindings := s.bindings.insert name (s.text w) }) s
      match words.flatMap s.fields with
      | [] =>
        match s.redirectAll rs with
        | .error s => s.settled tested
        | .ok opened => ({ opened with streams := s.streams, status := 0 }, .next)
      | name :: arguments =>
        match s.redirectAll rs with
        | .error s => s.settled tested
        | .ok opened =>
          if name == "exec" then
            match arguments with
            | [] => ({ opened with status := 0 }, .next)
            | name :: arguments => (external fuel name arguments opened, .leave)
          else
            match builtin? opened name arguments with
            | some (done, .next) => { done with streams := s.streams }.settled tested
            | some (done, flow) => ({ done with streams := s.streams }, flow)
            | none =>
              { external fuel name arguments opened with streams := s.streams }.settled tested
    | .sequence first second =>
      match run fuel tested first s with
      | (s, .next) => run fuel tested second s
      | stopped => stopped
    | .both first second =>
      match run fuel true first s with
      | (s, .next) => if s.status == 0 then run fuel tested second s else (s, .next)
      | stopped => stopped
    | .either first second =>
      match run fuel true first s with
      | (s, .next) => if s.status == 0 then (s, .next) else run fuel tested second s
      | stopped => stopped
    | .negated body =>
      match run fuel true body s with
      | (s, .next) => ({ s with status := if s.status == 0 then 1 else 0 }, .next)
      | stopped => stopped
    | .pipe first second =>
      let written := (run fuel true first
        { s with output := [], streams := { s.streams with output := .output } }).1
      let s' : Session := { s with
        tree := written.tree, errors := written.errors,
        streams := { s.streams with input := written.output } }
      let done := (run fuel true second s').1
      { s with
        tree := done.tree, output := done.output, errors := done.errors,
        status := done.status : Session }.settled tested
    | .branch condition success failure =>
      match run fuel true condition s with
      | (s, .next) =>
        if s.status == 0 then run fuel tested success s
        else run fuel tested failure { s with status := 0 }
      | stopped => stopped
    | .each name items body =>
      let values := match items with
        | some ws => ws.flatMap s.fields
        | none => s.arguments
      let (s, flow) := values.foldl (fun (s, flow) v =>
        if Flow.goesOn flow then
          run fuel tested body { s with bindings := s.bindings.insert name v }
        else (s, flow)) ({ s with status := if values.isEmpty then 0 else s.status }, .next)
      (s, flow.afterLoop)
    | .repeated wanted condition body =>
      match run fuel true condition s with
      | (s, .next) =>
        if (s.status == 0) == wanted then
          match run fuel tested body s with
          | (s, .endLoop) => (s, .next)
          | (s, .leave) => (s, .leave)
          | (s, _) => run fuel tested c s
        else ({ s with status := 0 }, .next)
      | stopped => stopped
    | .choose subject patterns body rest =>
      let cs := (s.text subject).toList
      if patterns.any fun w => Session.isMatch (s.matchers w) cs then run fuel tested body s
      else run fuel tested rest s
    | .redirected body rs =>
      match s.redirectAll rs with
      | .error s => s.settled tested
      | .ok opened =>
        let (done, flow) := run fuel tested body opened
        ({ done with streams := s.streams }, flow)
    | .subshell body =>
      let done := (run fuel tested body s).1
      { s with
        tree := done.tree, output := done.output, errors := done.errors,
        status := done.status : Session }.settled tested

/-- The session after a command that is a program of its own. -/
def external : Nat → String → List String → Session → Session
  | 0, _, _, s => { s with status := 2 }
  | fuel + 1, name, arguments, s =>
    match (commandPath? s.tree name).bind fun path =>
        execute? fuel path arguments s.streams.input s.tree with
    | some outcome => s.after outcome
    | none => s.complain (name ++ ": not found") 127

/-- The outcome of running the file at a path; `none` if it cannot be run. -/
def execute? : Nat → String → List String → List UInt8 → FileTree → Option Outcome
  | 0, _, _, _, _ => none
  | fuel + 1, path, arguments, input, t =>
    match standardName? path with
    | some name =>
      if shellNames.contains name then some (shell fuel path arguments input t)
      else standard? path name arguments input t
    | none =>
      if t.isExecutable path then
        match t.readBytes path with
        | .error _ => none
        | .ok contents => do
          let (program, given) ← interpreter? contents
          execute? fuel program (given ++ path :: arguments) input t
      else none

/-- The outcome of the shell, which is called by a path: options, then a script's path, then
the script's arguments. -/
def shell : Nat → String → List String → List UInt8 → FileTree → Outcome
  | 0, _, _, _, t => { tree := t, status := 2 }
  | fuel + 1, called, arguments, input, t =>
    let isOption (a : String) : Bool := a.toList.head? == some '-' && a.length > 1
    let options := arguments.takeWhile isOption
    let s : Session := {
      tree := t, name := called, streams := { input }, strict := hasOption options ['e'] }
    let start (s : Session) (text : String) : Outcome :=
      match Command.ofText? text with
      | some c =>
        let done := (run fuel false c s).1
        { tree := done.tree, output := done.output, errors := done.errors, status := done.status }
      | none =>
        let done := s.complain "Syntax error" 2
        { tree := done.tree, errors := done.errors, status := done.status }
    match arguments.dropWhile isOption with
    | [] => start s (Utf8.lossy input)
    | first :: rest =>
      if hasOption options ['c'] then
        start { s with name := rest.headD called, arguments := rest.drop 1 } first
      else
        match t.readBytes first with
        | .ok contents =>
          start { s with name := first, arguments := rest } (Utf8.lossy contents)
        | .error _ =>
          let done := s.complain ("0: cannot open " ++ first ++ ": No such file") 2
          { tree := t, errors := done.errors, status := 2 }

end

/-- The steps that a tool may take. -/
def maxSteps : Nat := 20000

/-- **Runs the file at a path** without input; `none` if it cannot be run. -/
def execute (t : FileTree) (path : String) (arguments : List String) : Option Outcome :=
  execute? maxSteps path arguments [] t

end Script

end ProtoSchema
