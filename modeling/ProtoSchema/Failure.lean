/-
What can go wrong between a schema and its generated files.

Every stage has its own causes; this type joins them and records where they arose: in which
generated file, in which source, or in which tool.
-/
import ProtoSchema.Json.Error
import ProtoSchema.Option.Printer
import ProtoSchema.Reserved

set_option autoImplicit false

namespace ProtoSchema

/-- **Why compiling a bundle, evaluating a source or running a tool failed.** -/
inductive Failure where
  | reserved (cause : ReservedError)
  | print (cause : PrintError)
  /-- A file could not be read or written. -/
  | inputOutput
  | json (cause : Json.Error)
  /-- A document of a source is not a schema document. -/
  | decode (source : String) (cause : Json.DataError)
  | toolNotFound (tool : String)
  /-- A tool whose output is captured ended with a status other than zero. -/
  | toolFailed (tool : String) (status : Nat) (stderr : String)
  /-- A tool that writes to the terminal ended with a status other than zero. -/
  | toolExited (tool : String) (status : Nat)
  /-- A jsonnet script could not be evaluated. -/
  | jsonnet
  | inFile (file : String) (cause : Failure)
  /-- An entry of a bundle object is not a list of documents. -/
  | entryNotList (source key : String)
  /-- A source is neither a document nor a list nor a bundle. -/
  | notABundle (source : String)
  /-- An exported value is neither an object nor an array. -/
  | notDocuments (source kind : String)
deriving DecidableEq, Repr

namespace Failure

/-- The wording of an exit status. -/
def statusText (status : Nat) : String := "exit status: " ++ Json.intText status

/-- The wording of a failure, where it has one. -/
def message? : Failure → Option String
  | .reserved cause => some cause.message
  | .print cause => some cause.message
  | .inputOutput => none
  | .json cause => cause.message?
  | .decode source cause => some ("parsing " ++ source ++ ": " ++ cause.message)
  | .toolNotFound tool => some ("`" ++ tool ++ "` not found; is it installed and on PATH?")
  | .toolFailed tool status stderr =>
    some (tool ++ " failed (" ++ statusText status ++ ")\n" ++ stderr)
  | .toolExited tool status => some (tool ++ " exited with " ++ statusText status)
  | .jsonnet => none
  | .inFile file cause => cause.message?.map fun text => file ++ ": " ++ text
  | .entryNotList source key =>
    some (source ++ ": bundle entry `" ++ key ++ "` must be an array of IR documents")
  | .notABundle source =>
    some (source ++ ": expected an IR document, an array or a bundle object")
  | .notDocuments source kind =>
    some (source ++ ": expected an IR object or array, got " ++ kind)

end Failure

end ProtoSchema
