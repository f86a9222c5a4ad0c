/-
The lines of code of a written body.

A text is a list of lines; the lines of code are those that are neither empty nor comments
(`codeLines`). A body is written line by line, so its code is that of its lines, one after the
other (`code_append`). A block that is always expanded keeps this: its lines start lines of the
text again, whatever else stands in it, and its code is the code of its lines between that of
its tokens (`code_block`).
-/
import Mathlib.Data.String.Basic
import ProtoSchema.Layout
import ProtoSchema.Text.Split

set_option autoImplicit false

namespace ProtoSchema

/-! ## Lines of code -/

/-- Whether a line is a comment: its first characters other than blanks are two slashes. -/
def isCommentLine (line : List Char) : Bool :=
  ['/', '/'].isPrefixOf (line.dropWhile (· == ' '))

/-- **The lines of code of a text**: its lines without the empty ones and the comments. -/
def codeLines (text : String) : List (List Char) :=
  (splitChars '\n' text.toList).filter fun line => !(line.isEmpty || isCommentLine line)

theorem codeLines_empty : codeLines "" = [] := rfl

/-- A line break separates the code lines before it from those after it. -/
theorem codeLines_break (s t : String) :
    codeLines (s ++ "\n" ++ t) = codeLines s ++ codeLines t := by
  rw [codeLines, splitChars_break, List.filter_append]
  rfl

/-! ## Bodies -/

namespace Layout

/-- The lines of code of a body that stands some blocks deep. -/
def code (depth : Nat) (body : Body) : List (List Char) := codeLines (expandedText depth true body)

theorem expandedText_cons_cons (depth : Nat) (line next : Line) (rest : List Line) :
    expandedText depth true (line :: next :: rest) =
      line.text depth (indentStep * depth) ++ "\n" ++ expandedText depth true (next :: rest) := by
  simp [expandedText, String.append_assoc]

theorem code_nil (depth : Nat) : code depth [] = [] := rfl

/-- Every line of a body starts a line of the text. -/
theorem code_cons (depth : Nat) (line : Line) (rest : Body) :
    code depth (line :: rest) =
      codeLines (line.text depth (indentStep * depth)) ++ code depth rest := by
  cases rest with
  | nil => simp [code, expandedText, codeLines_empty]
  | cons next rest => rw [code, expandedText_cons_cons, codeLines_break, code]

/-- The code of two bodies is that of the first, then that of the second. -/
theorem code_append (depth : Nat) (b c : Body) :
    code depth (b ++ c) = code depth b ++ code depth c := by
  induction b with
  | nil => rfl
  | cons line rest ih => rw [List.cons_append, code_cons, code_cons, ih, List.append_assoc]

/-- **A block that is always expanded** has the code of its lines between that of its tokens. -/
theorem code_block {opening : String} (h : alwaysExpands opening = true) (depth : Nat)
    (lines : Body) (closing : String) :
    code depth [.block opening lines closing] =
      codeLines (blanks (indentStep * depth) ++ opening) ++ (code (depth + 1) lines ++
        codeLines (blanks (indentStep * depth) ++ closing)) := by
  have hcollapses : ¬ collapses (indentStep * depth) opening lines closing = true := by
    simp [collapses, h]
  -- the block is expanded, so its tokens stand on rows of their own, with its lines between
  have htext : (Line.block opening lines closing).text depth (indentStep * depth) =
      blanks (indentStep * depth) ++ opening ++ "\n" ++ (expandedText (depth + 1) true lines ++
        "\n" ++ (blanks (indentStep * depth) ++ closing)) := by
    rw [Line.text, if_neg hcollapses]
    simp only [String.append_assoc]
  rw [code_cons, code_nil, List.append_nil, htext, codeLines_break, codeLines_break, code]

/-- A comment has no code, however deep it stands. -/
theorem code_comment {text : List Char} (h : '\n' ∉ text) (depth : Nat) :
    code depth [.plain (String.ofList ('/' :: '/' :: text))] = [] := by
  have htext : ((Line.plain (String.ofList ('/' :: '/' :: text))).text depth
      (indentStep * depth)).toList =
        List.replicate (indentStep * depth) ' ' ++ '/' :: '/' :: text := by
    rw [Line.text, if_neg (by simp), String.toList_append, blanks, String.toList_ofList,
      String.toList_ofList]
  have hbreak : '\n' ∉ List.replicate (indentStep * depth) ' ' ++ '/' :: '/' :: text := by
    simp [List.mem_replicate, h]
  have hcomment : isCommentLine (List.replicate (indentStep * depth) ' ' ++ '/' :: '/' :: text) =
      true := by
    -- the blanks of the depth are skipped before the slashes are looked for
    rw [isCommentLine, List.dropWhile_append_of_pos (by simp [List.mem_replicate])]
    simp [List.isPrefixOf]
  rw [code_cons, code_nil, List.append_nil, codeLines, htext,
    splitChars_eq_singleton hbreak, List.filter_cons_of_neg (by simp [hcomment]),
    List.filter_nil]

end Layout

end ProtoSchema
