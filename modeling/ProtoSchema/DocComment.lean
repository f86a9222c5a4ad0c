/-
Doc comments of generated text.

The help text of a declaration, without the blanks around it, is written as one comment per
line. A text of blanks only is no comment at all.
-/
import ProtoSchema.Layout
import ProtoSchema.Option.Path
import ProtoSchema.Text.Blank

set_option autoImplicit false

namespace ProtoSchema

namespace DocComment

/-- The comment for one line of help. -/
def lineText (line : List Char) : String :=
  if line.isEmpty then "//" else "// " ++ String.ofList line

/-- **The comments for a help text.** -/
def texts (help : String) : List String :=
  let trimmed := Blank.trimChars help.toList
  if trimmed.isEmpty then [] else (splitChars '\n' trimmed).map lineText

/-- The lines of a help text, set off by an empty line if asked for. -/
def lines (help : String) (separate : Bool) : Layout.Body :=
  let comments := (texts help).map Layout.Line.plain
  if comments.isEmpty then []
  else if separate then .plain "" :: comments
  else comments

end DocComment

end ProtoSchema
