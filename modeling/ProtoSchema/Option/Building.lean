/-
Building options in place.

A body is built by adding to its end, and adding may stop at a fault. What was added before the
fault then stays, so the outcome is a body in any case (`Building`). The lines of a block are added
to a body of its own, and the block is added only when it is filled.

This is how the lines of options come to be; in the end the body has the lines that the values have
by themselves.
-/
import ProtoSchema.Option.Printer

set_option autoImplicit false

namespace ProtoSchema

/-- **The outcome of adding to a body**: the body afterwards, and the fault at which the adding
stopped, if it did. -/
abbrev Building := Layout.Body × Option PrintError

namespace Building

/-- Adds more, unless the adding has stopped. -/
def andThen (b : Building) (next : Layout.Body → Building) : Building :=
  match b with
  | (body, none) => next body
  | (body, some e) => (body, some e)

/-- Adds a plain line. -/
def addLine (body : Layout.Body) (text : String) : Building := (body ++ [.plain text], none)

/-- **Adds a block**, after it has been filled from an empty body. -/
def addBlock (body : Layout.Body) (opening closing : String) (fill : Layout.Body → Building) :
    Building :=
  match fill [] with
  | (lines, none) => (body ++ [.block opening lines closing], none)
  -- the lines that the block got before the fault are given up with it
  | (_, some e) => (body, some e)

end Building

namespace OptionValue

mutual

/-- **Adds a value to a body**, between the texts before and after it. -/
def addTo (option before after : String) (body : Layout.Body) : OptionValue → Building
  | .null => (body, some (.unsupportedValue option (kindName .null)))
  | .bool b => .addLine body (before ++ (if b then "true" else "false") ++ after)
  | .number n => .addLine body (before ++ n.text ++ after)
  | .string s => .addLine body (before ++ Literal.ofString s ++ after)
  | .bytes bs => .addLine body (before ++ Literal.ofBytes bs ++ after)
  | .enumLiteral name => .addLine body (before ++ name ++ after)
  | .mapping entries =>
    .addBlock body (before ++ "\x7b") ("\x7d" ++ after) fun inner =>
      addEntriesTo option inner entries
  | .sequence items =>
    .addBlock body (before ++ "[") ("]" ++ after) fun inner => addItemsTo option inner items

/-- Adds entries, separated by commas. -/
def addEntriesTo (option : String) (body : Layout.Body) : List (String × OptionValue) → Building
  | [] => (body, none)
  | (key, value) :: rest =>
    (addTo option (key ++ ": ") (separator rest) body value).andThen fun body =>
      addEntriesTo option body rest

/-- Adds items, separated by commas. -/
def addItemsTo (option : String) (body : Layout.Body) : List OptionValue → Building
  | [] => (body, none)
  | value :: rest =>
    (addTo option "" (separator rest) body value).andThen fun body => addItemsTo option body rest

end

end OptionValue

namespace OptionAssignment

/-- Adds an option in the short form. -/
def addShortTo (body : Layout.Body) (o : OptionAssignment) (after : String) : Building :=
  o.value.addTo o.name (o.shortName ++ " = ") after body

/-- Adds an option in the long form. -/
def addLongTo (body : Layout.Body) (o : OptionAssignment) : Building :=
  if !o.path.isEmpty then (body, some (.pathOnLongOption o.name))
  else
    o.value.addTo o.name
      ("option " ++ (if o.isExtension then "(" ++ o.name ++ ")" else o.name) ++ " = ") ";" body

/-- **Adds options in the short form**, separated by commas. -/
def addAllShortTo (body : Layout.Body) : List OptionAssignment → Building
  | [] => (body, none)
  | o :: rest =>
    (addShortTo body o (OptionValue.separator rest)).andThen fun body => addAllShortTo body rest

/-- **Adds options in the long form.** -/
def addAllLongTo (body : Layout.Body) : List OptionAssignment → Building
  | [] => (body, none)
  | o :: rest => (addLongTo body o).andThen fun body => addAllLongTo body rest

end OptionAssignment

end ProtoSchema
