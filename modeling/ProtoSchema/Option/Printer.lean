/-
Writing options.

Statements and blocks set options in the long form, one statement each; fields and enum
constants set them in the short form, in one bracketed list. Values of several parts open a
block, which the layout may collapse. A null has no written form, and the long form has no
place for a path.
-/
import ProtoSchema.Layout
import ProtoSchema.Literal
import ProtoSchema.Option.Merge

set_option autoImplicit false

namespace ProtoSchema

/-- **Why an option cannot be written.** -/
inductive PrintError where
  /-- A path on an option in the long form. -/
  | pathOnLongOption (option : String)
  /-- A value without a written form. -/
  | unsupportedValue (option : String) (kind : String)
deriving DecidableEq, Repr

/-- The wording of an error. -/
def PrintError.message : PrintError → String
  | .pathOnLongOption option => "cannot have path specified for long option `" ++ option ++ "`"
  | .unsupportedValue option kind =>
    "option `" ++ option ++ "` has an unsupported " ++ kind ++ " value"

namespace OptionValue

/-- A comma, if more follows. -/
def separator {α : Type} (rest : List α) : String := if rest.isEmpty then "" else ","

mutual

/-- **The line of a value** between the texts before and after it; the option's name is for
the error. -/
def line (option before after : String) : OptionValue → Except PrintError Layout.Line
  | .null => .error (.unsupportedValue option (kindName .null))
  | .bool b => .ok (.plain (before ++ (if b then "true" else "false") ++ after))
  | .number n => .ok (.plain (before ++ n.text ++ after))
  | .string s => .ok (.plain (before ++ Literal.ofString s ++ after))
  | .bytes bs => .ok (.plain (before ++ Literal.ofBytes bs ++ after))
  | .enumLiteral name => .ok (.plain (before ++ name ++ after))
  | .mapping entries => do
    let lines ← entryLines option entries
    return .block (before ++ "\x7b") lines ("\x7d" ++ after)
  | .sequence items => do
    let lines ← itemLines option items
    return .block (before ++ "[") lines ("]" ++ after)

/-- The lines of entries, separated by commas. -/
def entryLines (option : String) :
    List (String × OptionValue) → Except PrintError (List Layout.Line)
  | [] => .ok []
  | (key, value) :: rest => do
    let first ← line option (key ++ ": ") (separator rest) value
    let others ← entryLines option rest
    return first :: others

/-- The lines of items, separated by commas. -/
def itemLines (option : String) : List OptionValue → Except PrintError (List Layout.Line)
  | [] => .ok []
  | value :: rest => do
    let first ← line option "" (separator rest) value
    let others ← itemLines option rest
    return first :: others

end

end OptionValue

namespace OptionAssignment

/-- The name of an option in the short form. -/
def shortName (o : OptionAssignment) : String :=
  if o.isExtension || !o.path.isEmpty then
    "(" ++ o.name ++ ")" ++ (if o.path.isEmpty then "" else "." ++ o.path)
  else o.name

/-- The line of an option in the short form. -/
def shortLine (o : OptionAssignment) (after : String) : Except PrintError Layout.Line :=
  o.value.line o.name (o.shortName ++ " = ") after

/-- The line of an option in the long form. -/
def longLine (o : OptionAssignment) : Except PrintError Layout.Line :=
  if !o.path.isEmpty then .error (.pathOnLongOption o.name)
  else
    o.value.line o.name
      ("option " ++ (if o.isExtension then "(" ++ o.name ++ ")" else o.name) ++ " = ") ";"

/-- **Adds options in the short form** to a body, up to the first that cannot be written; the
error is that option's. -/
def addShort (body : Layout.Body) : List OptionAssignment → Layout.Body × Option PrintError
  | [] => (body, none)
  | o :: rest =>
    match o.shortLine (OptionValue.separator rest) with
    | .ok line => addShort (body ++ [line]) rest
    | .error e => (body, some e)

/-- **Adds options in the long form** to a body, up to the first that cannot be written; the
error is that option's. -/
def addLong (body : Layout.Body) : List OptionAssignment → Layout.Body × Option PrintError
  | [] => (body, none)
  | o :: rest =>
    match o.longLine with
    | .ok line => addLong (body ++ [line]) rest
    | .error e => (body, some e)

/-- The outcome of adding options to an empty body. -/
def finished : Layout.Body × Option PrintError → Except PrintError Layout.Body
  | (body, none) => .ok body
  | (_, some e) => .error e

/-- The lines of options in the short form. -/
def shortLines (os : List OptionAssignment) : Except PrintError Layout.Body :=
  finished (addShort [] os)

/-- The lines of options in the long form. -/
def longLines (os : List OptionAssignment) : Except PrintError Layout.Body :=
  finished (addLong [] os)

end OptionAssignment

end ProtoSchema
