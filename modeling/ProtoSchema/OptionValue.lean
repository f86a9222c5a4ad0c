/-
Values of options.

Option values are close to JSON values, with two shapes that JSON lacks: byte strings and
bare enum constants. In a document these travel as marker objects, recognised by the text
under the name `reserved`. A null inside a mapping or a sequence means that the entry is
absent, so only a whole value can be null.

Reading a value that was written gives it back exactly when the value is `Normal`: no null
below the top, and no mapping that would be mistaken for a marker.
-/
import ProtoSchema.Json.Error

set_option autoImplicit false

namespace ProtoSchema

/-- **The value of an option.** The entries of a mapping stand in ascending order of their
keys. -/
inductive OptionValue where
  | null
  | bool (b : Bool)
  | number (n : Json.Number)
  | string (s : String)
  | bytes (bs : List UInt8)
  /-- The name of an enum constant, written without quotes. -/
  | enumLiteral (name : String)
  | mapping (entries : List (String × OptionValue))
  | sequence (items : List OptionValue)
deriving Repr, Inhabited

namespace OptionValue

/-- The name of a value's shape in messages. -/
def kindName : OptionValue → String
  | .null => "null"
  | .bool _ => "bool"
  | .number _ => "number"
  | .string _ => "string"
  | .bytes _ => "bytes"
  | .enumLiteral _ => "enum literal"
  | .mapping _ => "mapping"
  | .sequence _ => "sequence"

/-- The keys of a mapping. -/
def keys? : OptionValue → Option (List String)
  | .mapping entries => some (KeyMap.keys entries)
  | _ => none

/-! ## Markers -/

/-- The member that makes an object a marker. -/
def markerKey : String := "reserved"

/-- The marker of a byte string. -/
def bytesMarker : String := "__bytes_literal__"

/-- The marker of an enum constant. -/
def enumMarker : String := "__enum_value_literal__"

/-- The bytes of a marker's list. -/
def bytesOfItems : List Json → Except Json.MarkerError (List UInt8)
  | [] => .ok []
  | .number n :: rest =>
    match n.byte? with
    | some b => (b :: ·) <$> bytesOfItems rest
    | none => .error .invalidBytes
  | _ :: _ => .error .invalidBytes

/-- The bytes of an object marked as a byte string. -/
def bytesOfMembers (members : List (String × Json)) :
    Except Json.MarkerError OptionValue :=
  match KeyMap.find? members "value" with
  | some (.array items) => .bytes <$> bytesOfItems items
  | _ => .error .invalidBytes

/-- The constant of an object marked as an enum constant. -/
def enumLiteralOfMembers (members : List (String × Json)) :
    Except Json.MarkerError OptionValue :=
  match KeyMap.find? members "name" with
  | some (.string name) => .ok (.enumLiteral name)
  | _ => .error .invalidEnumLiteral

/-- The text under the marker's name, if the object has one. -/
def markerOf (members : List (String × Json)) : Option String :=
  match KeyMap.find? members markerKey with
  | some (.string s) => some s
  | _ => none

/-! ## Reading -/

mutual

/-- **The option value that a JSON value stands for.** -/
def ofJson : Json → Except Json.MarkerError OptionValue
  | .null => .ok .null
  | .bool b => .ok (.bool b)
  | .number n => .ok (.number n)
  | .string s => .ok (.string s)
  | .array items => .sequence <$> ofItems items
  | .object members =>
    if markerOf members = some enumMarker then enumLiteralOfMembers members
    else if markerOf members = some bytesMarker then bytesOfMembers members
    else .mapping <$> ofMembers members

/-- The values of the items that are not null. -/
def ofItems : List Json → Except Json.MarkerError (List OptionValue)
  | [] => .ok []
  | .null :: rest => ofItems rest
  | v :: rest => do
    let a ← ofJson v
    let as ← ofItems rest
    return a :: as

/-- The values of the members that are not null. -/
def ofMembers : List (String × Json) → Except Json.MarkerError (List (String × OptionValue))
  | [] => .ok []
  | (_, .null) :: rest => ofMembers rest
  | (k, v) :: rest => do
    let a ← ofJson v
    let as ← ofMembers rest
    return (k, a) :: as

end

/-! ## Writing -/

mutual

/-- **The JSON value of an option value**, with markers for bytes and enum constants. -/
def toJson : OptionValue → Json
  | .null => .null
  | .bool b => .bool b
  | .number n => .number n
  | .string s => .string s
  | .bytes bs =>
    .object [(markerKey, .string bytesMarker), ("value", .array (bs.map fun b => .int b.toNat))]
  | .enumLiteral name => .object [("name", .string name), (markerKey, .string enumMarker)]
  | .mapping entries => .object (toMembers entries)
  | .sequence items => .array (toItems items)

/-- The JSON values of items. -/
def toItems : List OptionValue → List Json
  | [] => []
  | v :: rest => v.toJson :: toItems rest

/-- The members of entries. -/
def toMembers : List (String × OptionValue) → List (String × Json)
  | [] => []
  | (k, v) :: rest => (k, v.toJson) :: toMembers rest

end

/-! ## Normal values -/

/-- Whether the entries would be read as a marker. -/
def hasMarker (entries : List (String × OptionValue)) : Bool :=
  match KeyMap.find? entries markerKey with
  | some (.string s) => s == bytesMarker || s == enumMarker
  | _ => false

mutual

/-- No null at any depth, and no mapping that would be read as a marker. -/
def NullFree : OptionValue → Prop
  | .null => False
  | .mapping entries => hasMarker entries = false ∧ NullFreeEntries entries
  | .sequence items => NullFreeItems items
  | _ => True

/-- Every item is free of nulls and markers. -/
def NullFreeItems : List OptionValue → Prop
  | [] => True
  | v :: rest => v.NullFree ∧ NullFreeItems rest

/-- Every entry's value is free of nulls and markers. -/
def NullFreeEntries : List (String × OptionValue) → Prop
  | [] => True
  | (_, v) :: rest => v.NullFree ∧ NullFreeEntries rest

end

/-- **Normal values**: null as a whole, or free of nulls and marker look-alikes. -/
def Normal (v : OptionValue) : Prop := v = .null ∨ v.NullFree

end OptionValue

end ProtoSchema
