/-
Schema documents straight from their texts.

The text is read once from front to back, so the first fault in it is the one reported,
whether it is a break of the grammar or a field of the wrong shape. A field that occurs twice
in one object is a fault here, as is an array with too many items, which is found only where
the array should have ended.
-/
import ProtoSchema.Schema.OfJson
import ProtoSchema.Json.Reader

set_option autoImplicit false

namespace ProtoSchema

namespace Schema

/-- **A decoder of texts**: given one more than the nesting that is still allowed, a reader. -/
abbrev OfText (α : Type) : Type := Nat → Json.Reader α

namespace OfText

open Json.Reader (ascii peek? advance check refuse)

variable {α β ρ : Type}

/-- Refuses the value at the front, whatever it is. -/
def unexpected (bound : Nat) (expected : Json.Expected) : Json.Reader α := do
  let found (shape : Json.Shape) : Json.Reader α := refuse (.invalidType shape expected)
  match ← peek? with
  | none => throw .truncated
  | some b =>
    if b == ascii 'n' then do advance; found (← Json.Reader.word "ull" .null)
    else if b == ascii 't' then do advance; found (← Json.Reader.word "rue" (.bool true))
    else if b == ascii 'f' then do advance; found (← Json.Reader.word "alse" (.bool false))
    else if b == ascii '-' then do advance; found (← Json.Reader.number true).shape
    else if Json.Reader.isDigit b then found (← Json.Reader.number false).shape
    else if b == ascii '"' then do advance; found (.string (← Json.Reader.string bound))
    else if b == ascii '[' then found .sequence
    else if b == ascii '\x7b' then found .map
    else throw .malformed

/-- The byte that the next value starts with. -/
def lead : Json.Reader UInt8 := do
  match ← peek? with
  | none => throw .truncated
  | some b => return b

/-- Takes an opening bracket, if nesting allows one more. -/
def enter (allowance : Nat) : Json.Reader Unit :=
  if allowance ≤ 1 then throw .malformed else advance

/-- A string. -/
def string (bound : Nat) : OfText String := fun _ => do
  if (← lead) == ascii '"' then advance; Json.Reader.string bound
  else unexpected bound .string

/-- A boolean. -/
def bool (bound : Nat) : OfText Bool := fun _ => do
  let b ← lead
  if b == ascii 't' then do advance; Json.Reader.word "rue" true
  else if b == ascii 'f' then do advance; Json.Reader.word "alse" false
  else unexpected bound .boolean

/-- A signed integer of 64 bits. -/
def int (bound : Nat) : OfText Int := fun _ => do
  let b ← lead
  if b == ascii '-' then do advance; check (← Json.Reader.number true).signed64
  else if Json.Reader.isDigit b then check (← Json.Reader.number false).signed64
  else unexpected bound .signed64

/-- An option value. -/
def optionValue (bound : Nat) : OfText OptionValue := fun allowance => do
  check (OfJson.optionValue (← Json.Reader.value bound allowance))

/-- Takes a null. -/
def null (bound : Nat) : Json.Reader Unit := do
  if (← lead) == ascii 'n' then advance; Json.Reader.word "ull" ()
  else unexpected bound .null

/-- One of several names, as a string or as the only member of an object, with null. -/
def variant (bound : Nat) (names : List (String × α)) : OfText α := fun allowance => do
  let name : Json.Reader String := do
    if (← lead) == ascii '"' then advance; Json.Reader.string bound
    else unexpected bound .variantName
  let b ← lead
  if b == ascii '"' then check (OfJson.named names (← name))
  else if b == ascii '\x7b' then
    enter allowance
    let a ← check (OfJson.named names (← name))
    Json.Reader.colon
    null bound
    if (← lead) == ascii '\x7d' then advance; return a
    else throw .malformed
  else throw .malformed

/-- A list. -/
def list (bound : Nat) (item : OfText α) : OfText (List α) := fun allowance => do
  if (← lead) == ascii '[' then
    enter allowance
    Json.Reader.items (item (allowance - 1)) bound true
  else unexpected bound .sequence

/-- A default for null. -/
def orNull (default : α) (d : OfText α) : OfText α := fun allowance => do
  match ← peek? with
  | some b =>
    if b == ascii 'n' then advance; Json.Reader.word "ull" default
    else d allowance
  | none => d allowance

/-- The change that one member of an object makes to a record, from the colon on; the names
seen before it come along. -/
def member (bound : Nat) (r : RecordDecoder OfText ρ) (allowance : Nat)
    (state : List String × ρ) (name : String) : Json.Reader (List String × ρ) := do
  match r.field? name with
  | none =>
    Json.Reader.colon
    Json.Reader.skip bound bound
    return state
  | some f =>
    if state.1.contains name then refuse (.duplicateField name)
    Json.Reader.colon
    let change ← f.update allowance
    return (name :: state.1, change state.2)

/-- The changes that an array's items make to a record. -/
def fieldItems (r : RecordDecoder OfText ρ) (allowance : Nat) :
    List (FieldDecoder OfText ρ) → Nat → Bool → ρ → Json.Reader ρ
  | [], _, _, x => do
    if (← lead) == ascii ']' then advance; return x
    else throw .malformed
  | f :: fields, index, first, x => do
    if ← Json.Reader.hasItem first then
      let change ← f.update allowance
      fieldItems r allowance fields (index + 1) false (change x)
    else if f.required then refuse (.tooFewItems index r.name r.fields.length)
    else fieldItems r allowance fields (index + 1) first x

/-- A record. -/
def record (bound : Nat) (r : RecordDecoder OfText ρ) : OfText ρ := fun allowance => do
  let b ← lead
  if b == ascii '[' then
    enter allowance
    fieldItems r (allowance - 1) r.fields 0 true r.blank
  else if b == ascii '\x7b' then
    enter allowance
    let (seen, x) ←
      Json.Reader.members (Json.Reader.string bound) (member bound r (allowance - 1)) bound true
        ([], r.blank)
    match r.missing? seen with
    | some f => refuse (.missingField f.name)
    | none => return x
  else unexpected bound (.record r.name)

/-- **The kit for texts** of at most `bound` bytes. -/
def format (bound : Nat) : Format OfText where
  map f d := fun allowance => f <$> d allowance
  string := string bound
  bool := bool bound
  int := int bound
  optionValue := optionValue bound
  variant := variant bound
  list := list bound
  orNull := orNull
  record := record bound
  tooDeep := fun _ => throw .malformed

end OfText

/-- **The document that a text is.** -/
def File.ofText (text : String) : Except Json.Error File :=
  let depth := Json.Reader.maxNesting + 1
  Json.Reader.run (fun bound => (OfText.format bound).file depth depth) (Utf8.bytes text)

/-- The option value that a text is. -/
def optionValueOfText (text : String) : Except Json.Error OptionValue :=
  Json.Reader.run (fun bound => OfText.optionValue bound (Json.Reader.maxNesting + 1))
    (Utf8.bytes text)

end Schema

end ProtoSchema
