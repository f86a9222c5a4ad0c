/-
Why a JSON text or value could not be read.

A text can be broken in itself, or end too early; a well-formed value can have the wrong
shape for what was expected of it. The last kind carries its cause, and `message` puts the
causes into words.
-/
import ProtoSchema.Json.Basic
import ProtoSchema.Text.Unprintable

set_option autoImplicit false

namespace ProtoSchema

namespace Json

/-! ## Causes -/

/-- **What was found** where something else was expected. -/
inductive Shape where
  | null
  | bool (b : Bool)
  | int (n : Int)
  | float (x : Binary64)
  | string (s : String)
  | sequence
  | map
deriving DecidableEq, Repr

/-- **What was expected.** -/
inductive Expected where
  | string
  | sequence
  | map
  | boolean
  | signed64
  | unsigned8
  | record (name : String)
  | null
  | stringOrMap
  | singleMember
  | variantName
deriving DecidableEq, Repr

/-- What is wrong with an object that stands for bytes or for an enum constant. -/
inductive MarkerError where
  | invalidBytes
  | invalidEnumLiteral
deriving DecidableEq, Repr

/-- **Why a well-formed value was refused.** -/
inductive DataError where
  | invalidType (found : Shape) (expected : Expected)
  | invalidValue (found : Shape) (expected : Expected)
  /-- An array given for a record has more items than the record has fields. -/
  | tooManyItems (length : Nat)
  /-- An array given for a record ends before a required field. -/
  | tooFewItems (length : Nat) (record : String) (fields : Nat)
  | missingField (name : String)
  | duplicateField (name : String)
  | unknownVariant (name : String) (known : List String)
  | marker (cause : MarkerError)
deriving DecidableEq, Repr

/-- **Why a text was refused.** -/
inductive Error where
  /-- The text breaks the grammar, a limit on nesting or the range of numbers. -/
  | malformed
  /-- The text ends inside a value. -/
  | truncated
  | data (cause : DataError)
deriving DecidableEq, Repr

/-! ## Wording -/

/-- The name of a shape in a message. -/
def Shape.text : Shape → String
  | .null => "null"
  | .bool b => "boolean `" ++ (if b then "true" else "false") ++ "`"
  | .int n => "integer `" ++ intText n ++ "`"
  | .float x => "floating point `" ++ floatFormat.text x ++ "`"
  | .string s => "string " ++ quotedForMessage s
  | .sequence => "sequence"
  | .map => "map"

/-- The name of an expectation in a message. -/
def Expected.text : Expected → String
  | .string => "a string"
  | .sequence => "a sequence"
  | .map => "a map"
  | .boolean => "a boolean"
  | .signed64 => "i64"
  | .unsigned8 => "u8"
  | .record name => "struct " ++ name
  | .null => "unit"
  | .stringOrMap => "string or map"
  | .singleMember => "map with a single key"
  | .variantName => "variant identifier"

/-- The wording of a marker's fault. -/
def MarkerError.message : MarkerError → String
  | .invalidBytes => "json bytes must be an array of numbers in the 0 to 255 range"
  | .invalidEnumLiteral => "enum value literal must carry a string name"

/-- The wording of a refusal. -/
def DataError.message : DataError → String
  | .invalidType found expected => "invalid type: " ++ found.text ++ ", expected " ++ expected.text
  | .invalidValue found expected =>
    "invalid value: " ++ found.text ++ ", expected " ++ expected.text
  | .tooManyItems length =>
    "invalid length " ++ intText length ++ ", expected fewer elements in array"
  | .tooFewItems length record fields =>
    "invalid length " ++ intText length ++ ", expected struct " ++ record ++ " with " ++
      intText fields ++ " elements"
  | .missingField name => "missing field `" ++ name ++ "`"
  | .duplicateField name => "duplicate field `" ++ name ++ "`"
  | .unknownVariant name known =>
    "unknown variant `" ++ name ++ "`, expected one of " ++
      String.intercalate ", " (known.map fun k => "`" ++ k ++ "`")
  | .marker cause => cause.message

/-- The wording of an error, where it has one. -/
def Error.message? : Error → Option String
  | .malformed => none
  | .truncated => none
  | .data cause => some cause.message

/-! ## Shapes of values -/

/-- The shape of a number. -/
def Number.shape : Number → Shape
  | .int n => .int n
  | .float x => .float x

/-- The shape of a value. -/
def shape : Json → Shape
  | .null => .null
  | .bool b => .bool b
  | .number n => n.shape
  | .string s => .string s
  | .array _ => .sequence
  | .object _ => .map

/-! ## Integers of fixed width -/

/-- The least signed integer of 64 bits. -/
def minSigned64 : Int := -9223372036854775808

/-- The greatest signed integer of 64 bits. -/
def maxSigned64 : Int := 9223372036854775807

/-- The integer that a number is, within bounds. A number with a fraction or an exponent is
of the wrong type even if it is whole. -/
def Number.bounded (lo hi : Int) (expected : Expected) : Number → Except DataError Int
  | .int n => if lo ≤ n ∧ n ≤ hi then .ok n else .error (.invalidValue (.int n) expected)
  | .float x => .error (.invalidType (.float x) expected)

/-- The signed integer of 64 bits that a number is. -/
def Number.signed64 (n : Number) : Except DataError Int :=
  n.bounded minSigned64 maxSigned64 .signed64

end Json

end ProtoSchema
