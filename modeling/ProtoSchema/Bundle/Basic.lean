/-
Bundles of schema documents.

A bundle holds, for each source, the documents that the source evaluated to. Sources are
ordered by name, documents by their place in the source. Evaluation ends with a JSON value;
the functions here say which documents such a value holds.
-/
import ProtoSchema.Failure
import ProtoSchema.Schema.OfText

set_option autoImplicit false

namespace ProtoSchema

/-- **A bundle**: the documents of each source. -/
abbrev Bundle := KeyMap (List Json)

namespace Bundle

/-- The bundle with another one laid over it: a source in both keeps the later documents. -/
def overlay (bundle other : Bundle) : Bundle :=
  other.foldl (fun b e => b.insert e.1 e.2) bundle

/-- The documents in bundle order, each with its source. -/
def documents (bundle : Bundle) : List (String × Json) :=
  bundle.flatMap fun e => e.2.map fun doc => (e.1, doc)

/-! ## Values as bundles -/

/-- Whether a value is an object with a member of the name. -/
def hasMember (name : String) : Json → Bool
  | .object members => KeyMap.contains members name
  | _ => false

/-- The entries of a bundle object, each of which has to be a list of documents. -/
def ofMembers (source : String) : List (String × Json) → Except Failure Bundle
  | [] => .ok []
  | (key, .array docs) :: rest => do
    let others ← ofMembers source rest
    return KeyMap.insert others key docs
  | (key, _) :: _ => .error (.entryNotList source key)

/-- **The bundle that a value of a source stands for**: one document, a list of documents, or
a whole bundle. What has a name is a document. -/
def ofJson (source : String) (value : Json) : Except Failure Bundle :=
  if hasMember "name" value then .ok [(source, [value])]
  else
    match value with
    | .array docs => .ok [(source, docs)]
    | .object members => ofMembers source members
    | _ => .error (.notABundle source)

/-! ## Texts as bundles -/

/-- Reads a bundle: an object with a list of documents for each source. Of two lists for one source
the later one counts. -/
def reader (bound : Nat) : Schema.OfText Bundle := fun allowance => do
  let entry (bundle : Bundle) (source : String) : Json.Reader Bundle := do
    Json.Reader.colon
    let docs ← Schema.OfText.list bound (Json.Reader.value bound) (allowance - 1)
    return bundle.insert source docs
  if (← Schema.OfText.lead) == Json.Reader.ascii '\x7b' then
    Schema.OfText.enter allowance
    Json.Reader.members (Json.Reader.string bound) entry bound true []
  else Schema.OfText.unexpected bound .map

/-- **The bundle that a text is.** -/
def ofText (text : String) : Except Json.Error Bundle :=
  Json.Reader.run (fun bound => reader bound (Json.Reader.maxNesting + 1)) (Utf8.bytes text)

/-! ## Exported documents -/

/-- The name of a value's shape in messages. -/
def shapeName : Json → String
  | .null => "null"
  | .bool _ => "a boolean"
  | .number _ => "a number"
  | .string _ => "a string"
  | .array _ => "an array"
  | .object _ => "an object"

/-- **The documents of an exported value**: those with a name. Exports without one are
libraries for others to use. -/
def namedDocuments (source : String) (exported : Json) : Except Failure (List Json) :=
  match exported with
  | .array docs => .ok (docs.filter (hasMember "name"))
  | .object members =>
    .ok (if hasMember "name" (.object members) then [.object members] else [])
  | other => .error (.notDocuments source (shapeName other))

end Bundle

end ProtoSchema
