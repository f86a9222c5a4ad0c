/-
Schema documents from JSON values.

A record is an object, or an array of its fields in their order. The members of an object are
decoded in the order in which they stand, which in a value is ascending, and the first fault
is reported; members with other names are ignored.
-/
import ProtoSchema.Schema.Decoder

set_option autoImplicit false

namespace ProtoSchema

namespace Schema

/-- **A decoder of JSON values.** -/
abbrev OfJson (α : Type) : Type := Json → Except Json.DataError α

namespace OfJson

variable {α β ρ : Type}

/-- A string. -/
def string : OfJson String
  | .string s => .ok s
  | v => .error (.invalidType v.shape .string)

/-- A boolean. -/
def bool : OfJson Bool
  | .bool b => .ok b
  | v => .error (.invalidType v.shape .boolean)

/-- A signed integer of 64 bits. -/
def int : OfJson Int
  | .number n => n.signed64
  | v => .error (.invalidType v.shape .signed64)

/-- An option value. -/
def optionValue : OfJson OptionValue := fun v =>
  match OptionValue.ofJson v with
  | .ok a => .ok a
  | .error cause => .error (.marker cause)

/-- What a name stands for. -/
def named (names : List (String × α)) (name : String) : Except Json.DataError α :=
  match KeyMap.find? names name with
  | some a => .ok a
  | none => .error (.unknownVariant name (names.map Prod.fst))

/-- One of several names, as a string or as the only member of an object, with null. -/
def variant (names : List (String × α)) : OfJson α
  | .string name => named names name
  | .object [(name, v)] => do
    let a ← named names name
    match v with
    | .null => return a
    | v => .error (.invalidType v.shape .null)
  | .object _ => .error (.invalidValue .map .singleMember)
  | v => .error (.invalidType v.shape .stringOrMap)

/-- The items of an array in order, up to the first that is refused. -/
def items (item : OfJson α) : List Json → Except Json.DataError (List α)
  | [] => .ok []
  | v :: rest => do
    let a ← item v
    let as ← items item rest
    return a :: as

/-- A list. -/
def list (item : OfJson α) : OfJson (List α)
  | .array vs => items item vs
  | v => .error (.invalidType v.shape .sequence)

/-- A default for null. -/
def orNull (default : α) (d : OfJson α) : OfJson α
  | .null => .ok default
  | v => d v

/-- The changes that an object's members make to a record, one after the other. -/
def applyMembers (r : RecordDecoder OfJson ρ) :
    List (String × Json) → ρ → Except Json.DataError ρ
  | [], x => .ok x
  | (name, v) :: rest, x =>
    match r.field? name with
    | none => applyMembers r rest x
    | some f => do
      let change ← f.update v
      applyMembers r rest (change x)

/-- The changes that an array's items make to a record, given the fields that are left, how
many came before, and the length of the array. -/
def applyItems (r : RecordDecoder OfJson ρ) (length : Nat) :
    List (FieldDecoder OfJson ρ) → Nat → List Json → ρ → Except Json.DataError ρ
  | [], _, [], x => .ok x
  | [], _, _ :: _, _ => .error (.tooManyItems length)
  | f :: fields, index, [], x =>
    if f.required then .error (.tooFewItems index r.name r.fields.length)
    else applyItems r length fields (index + 1) [] x
  | f :: fields, index, v :: rest, x => do
    let change ← f.update v
    applyItems r length fields (index + 1) rest (change x)

/-- A record. -/
def record (r : RecordDecoder OfJson ρ) : OfJson ρ
  | .object members => do
    let x ← applyMembers r members r.blank
    match r.missing? (members.map Prod.fst) with
    | some f => .error (.missingField f.name)
    | none => return x
  | .array vs => applyItems r vs.length r.fields 0 vs r.blank
  | v => .error (.invalidType v.shape (.record r.name))

/-- **The kit for JSON values.** -/
def format : Format OfJson where
  map f d := fun v => f <$> d v
  string := string
  bool := bool
  int := int
  optionValue := optionValue
  variant := variant
  list := list
  orNull := orNull
  record := record
  tooDeep := fun v => .error (.invalidType v.shape .sequence)

end OfJson

/-- **The document that a JSON value is.** Messages never nest deeper than the value does. -/
def File.ofJson (v : Json) : Except Json.DataError File :=
  OfJson.format.file (v.height + 1) v

end Schema

end ProtoSchema
