/-
Log filters.

A filter is a list of directives divided by commas. A directive names a target, or a span in
brackets with a field in braces, or both, and may set a level behind an equals sign; a single
word is a level or a target, whatever it is. A field is a name, or a name and a value, which is
a number or else a pattern. Only whether a filter is well formed matters here, since what it
lets through is not part of any result.

A directive is taken apart without the blanks around it, but its field and its level are then
cut out of the directive as it stands, at the places that they have without the blanks. So
blanks in front of a directive, or behind a level, change what is checked.
-/
import ProtoSchema.Pattern.Support
import ProtoSchema.Text.Utf8

set_option autoImplicit false

namespace ProtoSchema

namespace LogFilter

/-! ## Levels -/

/-- The names of levels, from the least to the most. -/
def levelNames : List String := ["off", "error", "warn", "info", "debug", "trace"]

/-- The number that a text writes, possibly with a plus sign and leading zeros. -/
def number? (cs : List Char) : Option Nat :=
  let digits := match cs with
    | '+' :: rest => rest
    | cs => cs
  if !digits.isEmpty && digits.all Char.isDigit then
    some (digits.foldl (fun n d => 10 * n + (d.toNat - 48)) 0)
  else none

/-- Whether a text is a level: nothing, a name in any case, or the number of one. -/
def isLevel (cs : List Char) : Bool :=
  cs.isEmpty || levelNames.contains (String.ofList (cs.map Char.toLower)) ||
    match number? cs with
    | some n => n < levelNames.length
    | none => false

/-! ## Fields -/

/-- The characters without a sign in front. -/
def afterSign : List Char → List Char
  | '+' :: rest => rest
  | '-' :: rest => rest
  | cs => cs

/-- Whether a text is the exponent of a number, or nothing. -/
def isExponent : List Char → Bool
  | [] => true
  | c :: rest =>
    (c = 'e' || c = 'E') && !(afterSign rest).isEmpty && (afterSign rest).all Char.isDigit

/-- The names of numbers without digits. -/
def numberNames : List String := ["inf", "infinity", "nan"]

/-- Whether a text is a number: digits with a point among them or at an end, and perhaps an
exponent, or the name of one. -/
def isNumber (cs : List Char) : Bool :=
  let unsigned := afterSign cs
  let whole := unsigned.takeWhile Char.isDigit
  let named := numberNames.contains (String.ofList (unsigned.map Char.toLower))
  match unsigned.dropWhile Char.isDigit with
  | '.' :: rest =>
    let fraction := rest.takeWhile Char.isDigit
    !(whole ++ fraction).isEmpty && isExponent (rest.dropWhile Char.isDigit)
  | rest => named || (!whole.isEmpty && isExponent rest)

/-- Whether a text is a field. Its value ends at a second equals sign. -/
def isField (cs : List Char) : Bool :=
  match cs.dropWhile (· ≠ '=') with
  | [] => true
  | _ :: rest =>
    let value := rest.takeWhile (· ≠ '=')
    isNumber value || Pattern.isValid value

/-! ## Directives -/

/-- **What a directive checks**, by what is left of it from certain places on: the field from
its beginning and from its end, and the level from its beginning. -/
structure Directive where
  field : Option (List Char × List Char) := none
  level : Option (List Char) := none

/-- Whether a character may start a target. -/
def startsTarget (c : Char) : Bool := c == '-' || c == ':' || c == '_' || Alphanumeric.holds c

/-- What follows a target or span: nothing, or an equals sign and a level. -/
def levelPart? (field : Option (List Char × List Char)) : List Char → Option Directive
  | [] => some { field }
  | c :: level => if c = '=' then some { field, level := some level } else none

/-- What follows an opening bracket: the name of a span, perhaps a field in braces, a closing
bracket and perhaps a level. -/
def spanPart? (cs : List Char) : Option Directive :=
  match cs.dropWhile fun c => !(c == ']' || c == '\x7b') with
  | ']' :: rest => levelPart? none rest
  | _ :: field =>
    let after := field.dropWhile (· ≠ '\x7d')
    match after with
    | _ :: ']' :: rest =>
      if field.length = after.length then none else levelPart? (some (field, after)) rest
    | _ => none
  | [] => none

/-- Takes apart a directive without blanks around it; `none` if it is none. -/
def directive? : List Char → Option Directive
  | [] => none
  | c :: rest =>
    if c = '[' then spanPart? rest
    else if startsTarget c then
      match rest.dropWhile fun c => !(c == '=' || c == '[') with
      | '[' :: after => spanPart? after
      | after => levelPart? none after
    else none

/-- The number of bytes of a text. -/
def byteSize (cs : List Char) : Nat := Utf8.size (String.ofList cs)

/-- The text of the bytes from one place to another, if they are one. -/
def cut? (cs : List Char) (first last : Nat) : Option (List Char) :=
  (Utf8.string? (((Utf8.bytes (String.ofList cs)).take last).drop first)).map String.toList

/-- Whether a directive as it stands in a list is well formed. -/
def isDirective (cs : List Char) : Bool :=
  let trimmed := Blank.trimChars cs
  let placeOf (left : List Char) : Nat := byteSize trimmed - byteSize left
  match directive? trimmed with
  | none => false
  | some d =>
    let field := match d.field with
      | some (start, stop) => (cut? cs (placeOf start) (placeOf stop)).any isField
      | none => true
    let level := match d.level with
      | some start => (cut? cs (placeOf start) (byteSize cs)).any isLevel
      | none => true
    field && level

/-- **Whether a text is a log filter.** Empty directives are skipped. -/
def isValid (text : String) : Bool :=
  ((text.toList.splitOnP (· == ',')).filter (!·.isEmpty)).all isDirective

end LogFilter

end ProtoSchema
