/-
The lines of a rendered text.

A rendered body is a list of rows, which is what stands between its line breaks. `bodyRows` says
which rows they are, without going through the text. A row is empty or starts with a token: with
the token of a line, or with the token that closes an expanded block. It carries the expanded
blocks around that token, and the row is indented by one step for each of them. A collapsed block
takes no row of its own, it is on the row of its opening token.

Writing keeps two numbers, the blocks around a line and the blanks it starts behind. They fit
together on every row because nothing is expanded inside a collapsed block: all blocks around the
start of a row are expanded.
-/
import ProtoSchema.Proofs.Layout.CodeLines
import ProtoSchema.Proofs.Layout.Collapsing

set_option autoImplicit false

namespace ProtoSchema

namespace Layout

/-- **A row of a text.** -/
inductive Row where
  /-- A row without characters. -/
  | empty
  /-- A row that starts with a token. `around` has the opening tokens of the expanded blocks around
  it, the innermost first, and `rest` is what follows the token on the row. -/
  | starting (around : List String) (token rest : String)
deriving Repr

/-- **The text of a row**: one step of indentation for each expanded block around its token. -/
def Row.text : Row → String
  | .empty => ""
  | .starting around token rest => blanks (indentStep * around.length) ++ token ++ rest

mutual

/-- **The rows of a line** inside expanded blocks. A line without text and block is an empty row.
An expanded block has a row for its opening token, the rows of its lines one block deeper, and a
row for its closing token, which has the same blocks around it as the opening one. -/
def Line.rows (around : List String) : Line → List Row
  | .plain text => if text.isEmpty then [.empty] else [.starting around text ""]
  | .block opening lines closing =>
    if collapses (indentStep * around.length) opening lines closing then
      [.starting around opening (inlinedAll true lines ++ closing)]
    else
      .starting around opening "" ::
        (bodyRows (opening :: around) lines ++ [.starting around closing ""])

/-- **The rows of a body** inside expanded blocks: those of its lines, or one empty row if it has
no lines. -/
def bodyRows (around : List String) : List Line → List Row
  | [] => [.empty]
  | [line] => line.rows around
  | line :: next :: rest => line.rows around ++ bodyRows around (next :: rest)

end

/-! ## Rows of texts -/

theorem expandedText_singleton (depth : Nat) (line : Line) :
    expandedText depth true [line] = line.text depth (indentStep * depth) := by
  simp [expandedText]

/-- A token without breaks behind its indentation is one row. -/
theorem splitChars_starting (around : List String) {token rest : String}
    (htoken : '\n' ∉ token.toList) (hrest : '\n' ∉ rest.toList) :
    splitChars '\n' (blanks (indentStep * around.length) ++ token ++ rest).toList =
      [(Row.starting around token rest).text.toList] := by
  have hblanks : '\n' ∉ (blanks (indentStep * around.length)).toList := by
    rw [blanks, String.toList_ofList]
    intro hmem
    exact absurd (List.eq_of_mem_replicate hmem) (by decide)
  refine splitChars_eq_singleton ?_
  rw [String.toList_append, String.toList_append, List.mem_append, List.mem_append]
  rintro ((h | h) | h)
  · exact hblanks h
  · exact htoken h
  · exact hrest h

mutual

/-- **The rows of a line's text** are the rows of the line, with as many blocks around it as the
line stands deep. -/
theorem Line.splitChars_text : ∀ {line : Line}, (∀ token ∈ line.tokens, '\n' ∉ token.toList) →
    ∀ around : List String,
      splitChars '\n' (line.text around.length (indentStep * around.length)).toList =
        (line.rows around).map fun row => row.text.toList
  | .plain text, h, around => by
    have htext : '\n' ∉ text.toList := h text List.mem_cons_self
    rw [Line.text, Line.rows]
    split
    · rfl
    · have hnothing : '\n' ∉ "".toList := List.not_mem_nil
      have hrow := splitChars_starting around htext hnothing
      rwa [String.append_empty] at hrow
  | .block opening lines closing, h, around => by
    obtain ⟨hopening, hrest⟩ := List.forall_mem_cons.mp h
    obtain ⟨hlines, hclosing⟩ := List.forall_mem_append.mp hrest
    have hclosing : '\n' ∉ closing.toList := hclosing closing List.mem_cons_self
    rw [Line.rows]
    split
    · -- collapsed: everything is on the row of the opening token
      rename_i hcollapses
      have hinside : '\n' ∉ (inlinedAll true lines).toList :=
        (spaced_inlinedAll true lines).not_mem (by decide) hlines
      have hafter : '\n' ∉ (inlinedAll true lines ++ closing).toList := by
        rw [String.toList_append, List.mem_append, not_or]
        exact ⟨hinside, hclosing⟩
      have hrow := splitChars_starting around hopening hafter
      rw [text_eq_inlined hcollapses, Line.inlined, List.map_singleton, ← hrow]
      simp only [String.append_assoc]
    · -- expanded: the rows of the tokens stand around those of the lines, one block deeper
      rename_i hexpands
      have hnothing : '\n' ∉ "".toList := List.not_mem_nil
      have htop := splitChars_starting around hopening hnothing
      have hbottom := splitChars_starting around hclosing hnothing
      have hbody := splitChars_expandedText hlines (opening :: around)
      have htext : (Line.block opening lines closing).text around.length
          (indentStep * around.length) =
            blanks (indentStep * around.length) ++ opening ++ "" ++ "\n" ++
              (expandedText (opening :: around).length true lines ++ "\n" ++
                (blanks (indentStep * around.length) ++ closing ++ "")) := by
        rw [Line.text, if_neg hexpands]
        simp only [String.append_assoc, String.append_empty, List.length_cons]
      rw [htext, splitChars_break, splitChars_break, htop, hbody, hbottom]
      simp only [List.singleton_append, List.map_cons, List.map_append, List.map_nil]

theorem splitChars_expandedText : ∀ {lines : List Line},
    (∀ token ∈ tokensAll lines, '\n' ∉ token.toList) → ∀ around : List String,
      splitChars '\n' (expandedText around.length true lines).toList =
        (bodyRows around lines).map fun row => row.text.toList
  | [], _, _ => rfl
  | [line], h, around => by
    have hline : ∀ token ∈ line.tokens, '\n' ∉ token.toList :=
      (List.forall_mem_append.mp h).1
    rw [expandedText_singleton, bodyRows]
    exact Line.splitChars_text hline around
  | line :: next :: rest, h, around => by
    obtain ⟨hline, hrest⟩ := List.forall_mem_append.mp h
    rw [expandedText_cons_cons, splitChars_break, Line.splitChars_text hline around,
      splitChars_expandedText hrest around, bodyRows, List.map_append]

end

/-! ## Tokens of texts -/

/-- Blanks and line breaks. -/
def IsLayout (c : Char) : Prop := c = ' ' ∨ c = '\n'

theorem spaced_blanks_layout (n : Nat) : Spaced IsLayout [] (blanks n).toList :=
  (spaced_blanks n).imp fun _ => .inl

mutual

/-- **The text of a line has its tokens**, wherever it is written. -/
theorem Line.spaced_text : ∀ (line : Line) (depth indent : Nat),
    Spaced IsLayout line.tokens (line.text depth indent).toList
  | .plain text, depth, indent => by
    rw [Line.text, Line.tokens]
    split
    · rename_i hempty
      -- an empty line is written without its blanks
      rw [String.isEmpty_iff.mp hempty]
      exact .single ""
    · rw [String.toList_append]
      exact (spaced_blanks_layout indent).append (.single text)
  | .block opening lines closing, depth, indent => by
    by_cases hcollapses : collapses indent opening lines closing = true
    · rw [text_eq_inlined hcollapses, String.toList_append]
      have hinlined := (Line.block opening lines closing).spaced_inlined
      exact (spaced_blanks_layout indent).append (hinlined.imp fun _ => .inl)
    · have hbreak : Spaced IsLayout [] "\n".toList := .gap (.inr rfl) .nil
      have hlines := spaced_expandedText (depth + 1) true lines
      have hclose := (hbreak.append (spaced_blanks_layout indent)).append (.single closing)
      -- in an expanded block the gaps are line breaks and the blanks of the depth
      have hinside := hbreak.append (hlines.append hclose)
      rw [Line.text, if_neg hcollapses, Line.tokens]
      simp only [String.toList_append, List.append_assoc] at hinside ⊢
      exact (spaced_blanks_layout indent).append (.token opening hinside)

theorem spaced_expandedText : ∀ (depth : Nat) (first : Bool) (lines : List Line),
    Spaced IsLayout (tokensAll lines) (expandedText depth first lines).toList
  | _, _, [] => .nil
  | depth, first, line :: rest => by
    have htexts := (line.spaced_text depth (indentStep * depth)).append
      (spaced_expandedText depth false rest)
    rw [expandedText, tokensAll, String.append_assoc, String.toList_append, String.toList_append]
    cases first with
    | true => exact htexts
    | false => exact .gap (.inr rfl) htexts

end

end Layout

end ProtoSchema
