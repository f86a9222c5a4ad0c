/-
The indentation that drafts store.

A draft stores its indentation when it is begun, and writing relies on it later: the lines of an
expanded block start where their draft says, not where the writing stands. The two agree because a
block's draft is begun one step deeper than the draft that gets the block and no builder touches what
is stored. So the indentation stored in every block, at any depth, is the number of blocks around its
lines (`Draft.Levelled`), in whichever order lines and blocks were added and whichever fillings
failed on the way (`Draft.Built.levelled`).

Under this invariant the stored indentation can be left out: the text of a built draft is that of its
bare lines, written by depth (`Draft.Built.render_eq`). Its rows then follow from those of bodies
(`Draft.render_rows`). Without it they do not: the example at the end fills a block from a draft that
was begun elsewhere.
-/
import ProtoSchema.Layout.Draft
import ProtoSchema.Proofs.Layout.Rows

set_option autoImplicit false

namespace ProtoSchema

namespace Layout

/-! ## Drafts that are built -/

/-- **A draft built from another one** by adding lines and blocks. A block is filled by adding to
the empty draft for it, and the filling may have stopped at a fault of any type. -/
inductive Draft.Built : Draft → Draft → Prop where
  | start (d : Draft) : Built d d
  | addLine {first d : Draft} (h : Built first d) (text : String) : Built first (d.addLine text)
  | addBlock {ε : Type} {first d : Draft} (h : Built first d) (opening closing : String)
      {fill : Draft → Draft × Option ε} (hfill : Built d.inner (fill d.inner).1) :
      Built first (d.addBlock opening closing fill).1

mutual

/-- The blocks of a line have stored one step more than there are blocks around them. -/
def DraftLine.Levelled (depth : Nat) : DraftLine → Prop
  | .plain _ => True
  | .block _ stored lines _ => stored = depth + 1 ∧ DraftLine.AllLevelled (depth + 1) lines

/-- The blocks of all lines have. -/
def DraftLine.AllLevelled (depth : Nat) : List DraftLine → Prop
  | [] => True
  | line :: rest => line.Levelled depth ∧ DraftLine.AllLevelled depth rest

end

/-- **The indentation stored in a draft fits**: in every block it is one step more than around it. -/
def Draft.Levelled (d : Draft) : Prop := DraftLine.AllLevelled d.indent d.lines

/-! ## Adding keeps the indentation -/

namespace DraftLine

/-- A line at the right level keeps the level of all. -/
theorem allLevelled_concat {depth : Nat} {lines : List DraftLine} {line : DraftLine}
    (hlines : AllLevelled depth lines) (hline : line.Levelled depth) :
    AllLevelled depth (lines ++ [line]) := by
  induction lines with
  | nil => exact ⟨hline, trivial⟩
  | cons first rest ih => exact ⟨hlines.1, ih hlines.2⟩

end DraftLine

namespace Draft

/-- Neither a block nor a fault in it changes the indentation of the draft around it. -/
@[simp] theorem addBlock_indent {ε : Type} (d : Draft) (opening closing : String)
    (fill : Draft → Draft × Option ε) : (d.addBlock opening closing fill).1.indent = d.indent := by
  unfold addBlock
  split <;> rfl

/-- A line of text has no indent of its own, so adding one keeps every level. -/
theorem Levelled.addLine {d : Draft} (h : d.Levelled) (text : String) :
    (d.addLine text).Levelled :=
  DraftLine.allLevelled_concat h trivial

/-- **A block keeps the invariant** if its draft still has the indentation that it was begun with. -/
theorem Levelled.addBlock {ε : Type} {d : Draft} (h : d.Levelled) (opening closing : String)
    {fill : Draft → Draft × Option ε} (hindent : (fill d.inner).1.indent = d.inner.indent)
    (hfilled : (fill d.inner).1.Levelled) : (d.addBlock opening closing fill).1.Levelled := by
  unfold Draft.addBlock
  split
  · rename_i filled hfill
    rw [hfill] at hindent hfilled
    -- the block keeps the indent that its draft had in the end, which is where it started
    have hline : (DraftLine.block opening filled.indent filled.lines closing).Levelled d.indent := by
      refine ⟨hindent, ?_⟩
      rw [Levelled, hindent] at hfilled
      exact hfilled
    exact DraftLine.allLevelled_concat h hline
  · -- a filling that fails leaves the draft as it was
    exact h

/-- **Whatever is built keeps the indentation it was begun with**, and stores the right one in its
blocks. The induction runs over the calls; for a block it covers those that filled it. -/
theorem Built.levelled {first d : Draft} (h : Built first d) (hfirst : first.Levelled) :
    d.indent = first.indent ∧ d.Levelled := by
  induction h with
  | start d => exact ⟨rfl, hfirst⟩
  | addLine _ text ih =>
    obtain ⟨hindent, hd⟩ := ih hfirst
    exact ⟨hindent, hd.addLine text⟩
  | addBlock _ opening closing _ ih ihfill =>
    obtain ⟨hindent, hd⟩ := ih hfirst
    obtain ⟨hinner, hfilled⟩ := ihfill trivial
    rw [addBlock_indent]
    exact ⟨hindent, hd.addBlock opening closing hinner hfilled⟩

end Draft

/-! ## Writing by depth -/

mutual

/-- **A line with the right indentation is written as its bare line**, wherever it starts: what is
handed down decides on collapsing, and the depth says what the blocks have stored. -/
theorem DraftLine.text_eq : ∀ {line : DraftLine} {depth : Nat}, line.Levelled depth →
    ∀ indent, line.text indent = line.bare.text depth indent
  | .plain _, _, _, _ => rfl
  | .block opening stored lines closing, depth, ⟨hstored, hlines⟩, indent => by
    subst hstored
    rw [DraftLine.text, DraftLine.bare, Line.text, DraftLine.collapsedText_eq hlines,
      DraftLine.expandedText_eq hlines]

theorem DraftLine.collapsedText_eq : ∀ {lines : List DraftLine} {depth : Nat},
    DraftLine.AllLevelled depth lines → ∀ {first : Bool},
      DraftLine.collapsedText first lines =
        Layout.collapsedText depth first (DraftLine.bareAll lines)
  | [], _, _, _ => rfl
  | line :: rest, depth, ⟨hline, hrest⟩, first => by
    rw [DraftLine.collapsedText, DraftLine.bareAll, Layout.collapsedText, DraftLine.text_eq hline,
      DraftLine.collapsedText_eq hrest]

theorem DraftLine.expandedText_eq : ∀ {lines : List DraftLine} {depth : Nat},
    DraftLine.AllLevelled depth lines → ∀ {first : Bool},
      DraftLine.expandedText depth first lines =
        Layout.expandedText depth first (DraftLine.bareAll lines)
  | [], _, _, _ => rfl
  | line :: rest, depth, ⟨hline, hrest⟩, first => by
    rw [DraftLine.expandedText, DraftLine.bareAll, Layout.expandedText, DraftLine.text_eq hline,
      DraftLine.expandedText_eq hrest]

end

namespace Draft

/-- **A built draft is written as its bare lines are.** -/
theorem Built.render_eq {d : Draft} (h : Built .new d) : d.render = Layout.render d.bare := by
  obtain ⟨hindent, hd⟩ := h.levelled trivial
  have hdepth : d.indent = 0 := hindent
  rw [Levelled, hdepth] at hd
  rw [Draft.render, hdepth, DraftLine.expandedText_eq hd]
  rfl

/-! ## Every body is a draft -/

mutual

/-- Adds a line, its block filled with the lines it has. -/
def addBare (d : Draft) : Line → Draft
  | .plain text => d.addLine text
  | .block opening lines closing =>
    (d.addBlock opening closing fun inner => (addBody inner lines, (none : Option Unit))).1

/-- Adds the lines of a body. -/
def addBody (d : Draft) : List Line → Draft
  | [] => d
  | line :: rest => addBody (addBare d line) rest

end

mutual

/-- A line added by its builders is one more step of building. -/
theorem Built.addBare {first : Draft} : ∀ (line : Line) {d : Draft}, Built first d →
    Built first (d.addBare line)
  | .plain text, _, h => h.addLine text
  | .block opening lines closing, _, h =>
    h.addBlock opening closing (Built.addBody lines (.start _))

/-- So are the lines of a body, one after another. -/
theorem Built.addBody {first : Draft} : ∀ (body : Body) {d : Draft}, Built first d →
    Built first (d.addBody body)
  | [], _, h => h
  | line :: rest, _, h => Built.addBody rest (Built.addBare line h)

end

theorem bareAll_concat (lines : List DraftLine) (line : DraftLine) :
    DraftLine.bareAll (lines ++ [line]) = DraftLine.bareAll lines ++ [line.bare] := by
  induction lines with
  | nil => rfl
  | cons first rest ih => rw [List.cons_append, DraftLine.bareAll, ih]; rfl

mutual

/-- What the builders add is the given line, at the end. -/
theorem bare_addBare : ∀ (line : Line) (d : Draft), (d.addBare line).bare = d.bare ++ [line]
  | .plain text, d => bareAll_concat d.lines (.plain text)
  | .block opening lines closing, d => by
    have hfilled : (d.inner.addBody lines).bare = lines := bare_addBody lines d.inner
    rw [bare] at hfilled
    rw [addBare, addBlock]
    dsimp only
    rw [bare, bareAll_concat, DraftLine.bare, hfilled]
    rfl

/-- The lines of a body are added as they are. -/
theorem bare_addBody : ∀ (body : Body) (d : Draft), (d.addBody body).bare = d.bare ++ body
  | [], d => (List.append_nil d.bare).symm
  | line :: rest, d => by
    rw [addBody, bare_addBody rest, bare_addBare line, List.append_assoc, List.singleton_append]

end

/-- **Every body is written as the draft that is built from it**, so that the two ways of writing
are one. -/
theorem render_addBody (body : Body) : (new.addBody body).render = Layout.render body := by
  rw [(Built.addBody body (.start new)).render_eq, bare_addBody]
  rfl

/-! ## Rows of drafts -/

/-- The tokens of a draft in order. -/
def tokens (d : Draft) : List String := tokensAll d.bare

/-- **The rows of a draft**, said by the blocks around them and not by what is stored. -/
def rows (d : Draft) : List Row := bodyRows [] d.bare

/-- **Layout adds blanks and line breaks only, and indents by depth.** Take any draft that is built
from the empty one, in whichever way. Its text has all its tokens in order, with nothing but blanks
and line breaks around them. Its rows start each with the token of a line or of an expanded block's
end, behind one step of indentation for each expanded block around it, or they are empty, for a line
without text and block or for an expanded block without lines. -/
theorem render_rows {d : Draft} (hbuilt : Built .new d)
    (htokens : ∀ token ∈ d.tokens, '\n' ∉ token.toList) :
    Spaced IsLayout d.tokens d.render.toList ∧
      splitChars '\n' d.render.toList = d.rows.map fun row => row.text.toList := by
  rw [hbuilt.render_eq]
  exact ⟨spaced_expandedText 0 true d.bare, splitChars_expandedText htokens []⟩

/-- A draft with an expanded block that has an empty line, an expanded block without lines and a
collapsed block in it. Filling one more block stops at a fault. -/
def sample : Draft :=
  let message (inner : Draft) : Draft × Option String :=
    let start := (inner.addLine "int32 x = 1;").addLine ""
    let enum := (start.addBlock "enum E \x7b" "\x7d" fun empty => (empty, (none : Option String))).1
    let after := (enum.addBlock "option (o) = \x7b" "\x7d;" fun value =>
      (value.addLine "a: 1", some "null")).1
    after.addBlock "int32 y = 2 [" "];" fun options => (options.addLine "deprecated = true", none)
  ((new.addLine "// Sample.").addBlock "message A \x7b" "\x7d" message).1

/-- The nine rows of the draft, the two empty ones without blanks. -/
theorem render_rows_sample :
    Built .new sample ∧ (∀ token ∈ sample.tokens, '\n' ∉ token.toList) ∧
    sample.rows = [
      .starting [] "// Sample." "",
      .starting [] "message A \x7b" "",
      .starting ["message A \x7b"] "int32 x = 1;" "",
      .empty,
      .starting ["message A \x7b"] "enum E \x7b" "",
      .empty,
      .starting ["message A \x7b"] "\x7d" "",
      .starting ["message A \x7b"] "int32 y = 2 [" "deprecated = true];",
      .starting [] "\x7d" ""] ∧
    splitChars '\n' sample.render.toList = sample.rows.map fun row => row.text.toList := by
  have hbuilt : Built .new sample := by
    refine .addBlock ((Built.start new).addLine _) _ _ ?_
    refine .addBlock (.addBlock (.addBlock (((Built.start _).addLine _).addLine _) _ _ ?_) _ _ ?_)
      _ _ ?_
    · exact .start _
    · exact (Built.start _).addLine _
    · exact (Built.start _).addLine _
  have htokens : ∀ token ∈ sample.tokens, '\n' ∉ token.toList := by decide
  exact ⟨hbuilt, htokens, rfl, (render_rows hbuilt htokens).2⟩

/-- A block that is filled from a draft begun elsewhere is written where that draft was begun. -/
example : ((new.addBlock "message A \x7b" "\x7d" fun _ =>
    (new.addLine "int32 x = 1;", (none : Option String))).1).render =
      "message A \x7b\nint32 x = 1;\n\x7d" := by decide

end Draft

end Layout

end ProtoSchema
