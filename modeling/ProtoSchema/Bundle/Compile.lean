/-
Compiling bundles.

Every document is compiled on its own: decoded, lowered and written. A run either stops at the
first document that fails, or keeps going and reports all failures beside the files that were
generated.
-/
import ProtoSchema.Bundle.Basic
import ProtoSchema.Declaration.Lowering
import ProtoSchema.Declaration.Printer
import ProtoSchema.Schema.OfText

set_option autoImplicit false

namespace ProtoSchema

/-- **A generated file**: its name below the output directory, and its text. -/
structure GeneratedFile where
  name : String
  contents : String
deriving DecidableEq, Repr, Inhabited

/-- **Compiles a document.** -/
def Schema.File.compile (f : Schema.File) : Except Failure GeneratedFile :=
  match f.lower with
  | .error e => .error (.reserved e)
  | .ok file =>
    match file.render with
    | .error e => .error (.print e)
    | .ok contents => .ok { name := f.name, contents }

/-- Compiles the document that a text is. -/
def compileText (text : String) : Except Failure String :=
  match Schema.File.ofText text with
  | .error e => .error (.json e)
  | .ok f => GeneratedFile.contents <$> f.compile

namespace Bundle

/-- The document of a source. -/
def decodeDocument (source : String) (doc : Json) : Except Failure Schema.File :=
  match Schema.File.ofJson doc with
  | .ok f => .ok f
  | .error e => .error (.decode source e)

/-- **The outcome of one document.** A failure behind the decoding names the file. -/
def compileDocument (source : String) (doc : Json) : Except Failure GeneratedFile := do
  let f ← decodeDocument source doc
  match f.compile with
  | .ok generated => return generated
  | .error e => .error (.inFile f.name e)

/-- The decoded documents of a bundle in order, each with its source. -/
def decode (bundle : Bundle) : Except Failure (List (String × Schema.File)) :=
  bundle.documents.mapM fun (source, doc) => do
    let f ← decodeDocument source doc
    return (source, f)

/-- **A document that failed**: its source, the name of its file if it was decoded, and the
cause. -/
structure DocumentFailure where
  source : String
  file : Option String
  cause : Failure
deriving Repr

/-- **The outcome of a bundle.** -/
structure Report where
  generated : List GeneratedFile := []
  failures : List DocumentFailure := []
deriving Repr, Inhabited

/-- Whether no document failed. -/
def Report.isSuccess (r : Report) : Bool := r.failures.isEmpty

/-- The file that a failure names. -/
def failedFile? : Failure → Option String
  | .inFile file _ => some file
  | _ => none

/-- Compiles documents after each other, with the report so far. -/
def compileFrom (keepGoing : Bool) (report : Report) :
    List (String × Json) → Except Failure Report
  | [] => .ok report
  | (source, doc) :: rest =>
    match compileDocument source doc with
    | .ok generated =>
      compileFrom keepGoing { report with generated := report.generated ++ [generated] } rest
    | .error cause =>
      if keepGoing then
        let failure := { source, file := failedFile? cause, cause }
        compileFrom keepGoing { report with failures := report.failures ++ [failure] } rest
      else .error cause

/-- **Compiles a bundle.** Without `keepGoing` the first failure is the outcome. -/
def compile (keepGoing : Bool) (bundle : Bundle) : Except Failure Report :=
  compileFrom keepGoing {} bundle.documents

end Bundle

end ProtoSchema
