/-
Kinds of inputs.

An input is evaluated by the language that its extension names. Whatever names none of them
is left for the protocol compiler. The kinds exclude each other, since a path has one
extension.
-/
import ProtoSchema.Path

set_option autoImplicit false

namespace ProtoSchema

/-- **The languages of schema sources.** -/
inductive SourceKind where
  | jsonnet
  | nickel
  | json
deriving DecidableEq, Repr

namespace SourceKind

/-- The extension of the sources of a kind. -/
def extension : SourceKind → String
  | .jsonnet => "jsonnet"
  | .nickel => "ncl"
  | .json => "json"

/-- Whether a path is a source of the kind. -/
def accepts (kind : SourceKind) (path : String) : Bool :=
  Path.extension? path == some kind.extension

/-- The kind of source that a path is, if it is one. -/
def ofPath? (path : String) : Option SourceKind :=
  [jsonnet, nickel, json].find? fun kind => kind.accepts path

end SourceKind

/-- **Inputs by kind**, each in the order they were given. -/
structure Inputs where
  jsonnet : List String := []
  nickel : List String := []
  json : List String := []
  /-- What the protocol compiler gets. -/
  others : List String := []
deriving DecidableEq, Repr, Inhabited

namespace Inputs

/-- The inputs of a list of paths. -/
def ofPaths (paths : List String) : Inputs where
  jsonnet := paths.filter fun p => SourceKind.ofPath? p == some .jsonnet
  nickel := paths.filter fun p => SourceKind.ofPath? p == some .nickel
  json := paths.filter fun p => SourceKind.ofPath? p == some .json
  others := paths.filter fun p => SourceKind.ofPath? p == none

/-- Whether files are generated from the inputs. -/
def hasSchemas (inputs : Inputs) : Bool :=
  !(inputs.jsonnet.isEmpty && inputs.nickel.isEmpty && inputs.json.isEmpty)

end Inputs

end ProtoSchema
