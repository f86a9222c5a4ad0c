/-
Drafts: texts while they are built.

A draft has the lines that were added to it so far, and the indentation that they will be written
behind. The indentation is stored when a draft is begun: there is none at the outermost level, and
the draft that fills a block is begun one step deeper than the draft that gets the block. Lines and
blocks are added at the end. Filling a block may fail, and then the block is not added.

Writing a draft uses both the stored indentation and one that is handed down. The lines of a draft
start behind what the draft has stored, and so do those of an expanded block, whose draft has stored
its own. A line inside a collapsed block is handed no indentation. What a line is handed decides
whether its block is collapsed.
-/
import ProtoSchema.Layout

set_option autoImplicit false

namespace ProtoSchema

namespace Layout

/-- **A line of a draft**: plain text, or the tokens around a block and the draft that filled it,
with the indentation that is stored there and the lines. -/
inductive DraftLine where
  | plain (text : String)
  | block (opening : String) (indent : Nat) (lines : List DraftLine) (closing : String)
deriving Repr, Inhabited

/-- **A draft**, with its indentation in steps. -/
structure Draft where
  indent : Nat
  lines : List DraftLine
deriving Repr, Inhabited

/-! ## Building -/

namespace Draft

/-- An empty draft at the outermost level. -/
def new : Draft := { indent := 0, lines := [] }

/-- The empty draft that a block of this draft is filled from. -/
def inner (d : Draft) : Draft := { indent := d.indent + 1, lines := [] }

/-- Adds a plain line. -/
def addLine (d : Draft) (text : String) : Draft := { d with lines := d.lines ++ [.plain text] }

/-- **Adds a block.** The outcome of filling it is a draft in any case, with the fault at which the
filling stopped, if it did; then the draft without the block is the outcome here. -/
def addBlock {ε : Type} (d : Draft) (opening closing : String) (fill : Draft → Draft × Option ε) :
    Draft × Option ε :=
  match fill d.inner with
  | (filled, none) =>
    ({ d with lines := d.lines ++ [.block opening filled.indent filled.lines closing] }, none)
  | (_, some e) => (d, some e)

end Draft

/-! ## Lines without their indentation -/

mutual

/-- The line without the indentation that is stored in it. -/
def DraftLine.bare : DraftLine → Line
  | .plain text => .plain text
  | .block opening _ lines closing => .block opening (DraftLine.bareAll lines) closing

/-- The lines without the indentation that is stored in them. -/
def DraftLine.bareAll : List DraftLine → Body
  | [] => []
  | line :: rest => line.bare :: DraftLine.bareAll rest

end

/-- The lines of a draft without the indentation that is stored in them. -/
def Draft.bare (d : Draft) : Body := DraftLine.bareAll d.lines

/-! ## Writing -/

mutual

/-- **The text of a line** that starts behind `indent` blanks. Whether its block fits there does not
depend on what is stored in the block. -/
def DraftLine.text (indent : Nat) : DraftLine → String
  | .plain text => if text.isEmpty then "" else blanks indent ++ text
  | .block opening stored lines closing =>
    blanks indent ++ opening ++
      (if collapses indent opening (DraftLine.bareAll lines) closing then
        DraftLine.collapsedText true lines
      else
        "\n" ++ DraftLine.expandedText stored true lines ++ "\n" ++ blanks indent) ++ closing

/-- The texts of lines after each other, with blanks between them. -/
def DraftLine.collapsedText (first : Bool) : List DraftLine → String
  | [] => ""
  | line :: rest =>
    (if first then "" else " ") ++ line.text 0 ++ DraftLine.collapsedText false rest

/-- The texts of lines below each other, behind the indentation that their draft has stored. -/
def DraftLine.expandedText (stored : Nat) (first : Bool) : List DraftLine → String
  | [] => ""
  | line :: rest =>
    (if first then "" else "\n") ++ line.text (indentStep * stored) ++
      DraftLine.expandedText stored false rest

end

/-- **The text of a draft**, without a line break at its end. -/
def Draft.render (d : Draft) : String := DraftLine.expandedText d.indent true d.lines

end Layout

end ProtoSchema
