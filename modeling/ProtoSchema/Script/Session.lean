/-
The state of a running script.

A session holds the file tree, the parameters, the status of the last command and where its
streams lead. Values are filled into words here: a quoted value stays in one piece, an
unquoted one is divided at its blanks.
-/
import ProtoSchema.KeyMap
import ProtoSchema.Script.Command
import ProtoSchema.Script.Program

set_option autoImplicit false

namespace ProtoSchema

namespace Script

/-- Where a stream leads. -/
inductive Sink where
  | output
  | errors
  | file (path : String)
  | nowhere
deriving DecidableEq, Repr

/-- The streams of a command. -/
structure Streams where
  input : List UInt8 := []
  output : Sink := .output
  errors : Sink := .errors
deriving DecidableEq, Repr, Inhabited

/-- **A running script.** -/
structure Session where
  tree : FileTree
  /-- The path that the script was called by. -/
  name : String := "sh"
  arguments : List String := []
  bindings : KeyMap String := []
  status : Nat := 0
  streams : Streams := {}
  output : List UInt8 := []
  errors : List UInt8 := []
  /-- Whether a command that fails ends the script. -/
  strict : Bool := false
deriving DecidableEq, Repr, Inhabited

/-- How a script goes on after a command. -/
inductive Flow where
  | next
  | leave
  | endLoop
  | nextRound
deriving DecidableEq, Repr

namespace Session

/-! ## Streams -/

/-- The session with bytes sent to a sink. -/
def send (s : Session) (sink : Sink) (bs : List UInt8) : Session :=
  match sink with
  | .output => { s with output := s.output ++ bs }
  | .errors => { s with errors := s.errors ++ bs }
  | .nowhere => s
  | .file path =>
    match s.tree.appendBytes path bs with
    | .ok tree => { s with tree }
    | .error _ => s

/-- The session with bytes written to its output. -/
def write (s : Session) (bs : List UInt8) : Session := s.send s.streams.output bs

/-- The session with a complaint and a status. -/
def complain (s : Session) (text : String) (status : Nat) : Session :=
  { s.send s.streams.errors (Utf8.bytes (s.name ++ ": " ++ text ++ "\n")) with status }

/-- The session after a program has run in it. -/
def after (s : Session) (o : Outcome) : Session :=
  let s := ({ s with tree := o.tree }.write o.output)
  { s.send s.streams.errors o.errors with status := o.status }

/-! ## Values -/

/-- The value of a parameter. -/
def value (s : Session) (name : String) : String :=
  match name with
  | "@" | "*" => String.intercalate " " s.arguments
  | "#" => Nat.repr s.arguments.length
  | "?" => Nat.repr s.status
  | "$" => "1"
  | "0" => s.name
  | name =>
    if name.toList.all Char.isDigit then s.arguments.getD (decimal name.toList - 1) ""
    else (s.bindings.find? name).getD ""

/-- The words of a text: its parts between blanks. -/
def splitBlanks (cs : List Char) : List (List Char) :=
  (cs.splitOnP fun c => c == ' ' || c == '\t' || c == '\n').filter (!·.isEmpty)

/-- The fields so far, and the one that is being written, if any. -/
structure Fields where
  done : List String := []
  current : Option (List Char) := none

/-- The fields with a text added to the current one. -/
def Fields.add (f : Fields) (cs : List Char) : Fields :=
  { f with current := some (f.current.getD [] ++ cs) }

/-- The fields with the current one finished. -/
def Fields.finish (f : Fields) : Fields :=
  match f.current with
  | some cs => { done := f.done ++ [String.ofList cs] }
  | none => f

/-- The fields with a list of texts added, the first to the current field and each other one
in a field of its own. -/
def Fields.addEach (f : Fields) : List (List Char) → Fields
  | [] => f
  | first :: rest => rest.foldl (fun f cs => f.finish.add cs) (f.add first)

/-- The fields with the words of an unquoted value added. Blanks at its ends divide too. -/
def Fields.addSplit (f : Fields) (cs : List Char) : Fields :=
  let isBlank (c : Option Char) : Bool := c == some ' ' || c == some '\t' || c == some '\n'
  let f := if isBlank cs.head? then f.finish else f
  let f := f.addEach (splitBlanks cs)
  if isBlank cs.getLast? then f.finish else f

/-- The fields with a piece of a word added. -/
def addPiece (s : Session) (f : Fields) : Piece → Fields
  | .text cs _ => f.add cs
  | .parameter "@" true => f.addEach (s.arguments.map String.toList)
  | .parameter name true => f.add (s.value name).toList
  | .parameter "@" false | .parameter "*" false =>
    s.arguments.foldl (fun f a => (f.addSplit a.toList).finish) f
  | .parameter name false => f.addSplit (s.value name).toList

/-- **The arguments that a word stands for.** -/
def fields (s : Session) (w : Word) : List String := (w.foldl s.addPiece {}).finish.done

/-- The one text that a word stands for. -/
def text (s : Session) (w : Word) : String :=
  String.join (w.map fun
    | .text cs _ => String.ofList cs
    | .parameter name _ => s.value name)

/-! ## Patterns -/

/-- A part of a pattern. -/
inductive Matcher where
  | exact (c : Char)
  | one
  | many
deriving DecidableEq, Repr

/-- The pattern that a word stands for. Quoted characters match only themselves. -/
def matchers (s : Session) (w : Word) : List Matcher :=
  let unquoted (c : Char) : Matcher :=
    if c = '*' then .many else if c = '?' then .one else .exact c
  w.flatMap fun
    | .text cs true => cs.map Matcher.exact
    | .text cs false => cs.map unquoted
    | .parameter name true => (s.value name).toList.map Matcher.exact
    | .parameter name false => (s.value name).toList.map unquoted

/-- Whether a text matches a pattern. -/
def isMatch : List Matcher → List Char → Bool
  | [], cs => cs.isEmpty
  | .exact c :: ms, cs =>
    match cs with
    | [] => false
    | d :: rest => c == d && isMatch ms rest
  | .one :: ms, cs =>
    match cs with
    | [] => false
    | _ :: rest => isMatch ms rest
  | .many :: ms, cs => (List.range (cs.length + 1)).any fun n => isMatch ms (cs.drop n)

/-! ## Redirections -/

/-- The sink that a file is written through. -/
def openSink (s : Session) (path : String) (keep : Bool) : Except FileTree.Fault (Session × Sink) :=
  match path with
  | "/dev/null" => .ok (s, .nowhere)
  | "/dev/stdout" => .ok (s, s.streams.output)
  | "/dev/stderr" => .ok (s, s.streams.errors)
  | path => do
    let tree ← if keep then s.tree.appendBytes path [] else s.tree.writeBytes path []
    return ({ s with tree }, .file path)

/-- The session with a stream leading to a sink. -/
def lead (s : Session) (stream : Nat) (sink : Sink) : Session :=
  if stream == 2 then { s with streams := { s.streams with errors := sink } }
  else if stream == 1 then { s with streams := { s.streams with output := sink } }
  else s

/-- The session after one redirection. -/
def redirect (s : Session) (r : Redirect) : Except Session Session :=
  let target := s.text r.target
  match r.kind with
  | .duplicate =>
    match target with
    | "1" => .ok (s.lead r.stream s.streams.output)
    | "2" => .ok (s.lead r.stream s.streams.errors)
    | _ => .ok (s.lead r.stream .nowhere)
  | .read =>
    if target == "/dev/null" then .ok { s with streams := { s.streams with input := [] } }
    else
      match s.tree.readBytes target with
      | .ok bs => .ok { s with streams := { s.streams with input := bs } }
      | .error _ => .error (s.complain ("cannot open " ++ target ++ ": No such file") 2)
  | kind =>
    match s.openSink target (kind == .append) with
    | .ok (s, sink) => .ok (s.lead r.stream sink)
    | .error _ => .error (s.complain ("cannot create " ++ target ++ ": Directory nonexistent") 2)

/-- The session after redirections, or with a complaint about the first that fails. -/
def redirectAll (s : Session) (rs : List Redirect) : Except Session Session :=
  rs.foldlM redirect s

end Session

end Script

end ProtoSchema
