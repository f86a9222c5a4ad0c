/-
A collapsed block is one line of the width that was foreseen.

Whether a block is collapsed is decided from its width, but the lines inside it decide again for
themselves, each behind an indentation of its own. The decisions agree: a line fits behind an
indentation if it holds no block that is always expanded and its tokens end before the last column
(`Line.Fits`), a block is collapsed exactly if it fits (`collapses_iff_fits`), and if it fits, so
do all lines inside it, which are written without indentation (`Writes.fits`). So the text of a
collapsed block is that of its tokens with every block inside it collapsed too (`Line.inlined`):
only single blanks are added, one between any two lines of a block.
-/
import ProtoSchema.Proofs.Layout.Sites

set_option autoImplicit false

namespace ProtoSchema

namespace Layout

/-! ## Tokens and the gaps between them -/

mutual

/-- **The tokens of a line** in their order: what its lines start with, and what closes its
blocks. -/
def Line.tokens : Line → List String
  | .plain text => [text]
  | .block opening lines closing => opening :: (tokensAll lines ++ [closing])

/-- The tokens of several lines. -/
def tokensAll : List Line → List String
  | [] => []
  | line :: rest => line.tokens ++ tokensAll rest

end

/-- **A text of tokens with gaps.** The tokens stand in the text in this order, each once and
unchanged, and every other character of the text is allowed in a gap. -/
inductive Spaced (gap : Char → Prop) : List String → List Char → Prop where
  | nil : Spaced gap [] []
  | gap {tokens : List String} {text : List Char} {c : Char} (hc : gap c)
      (h : Spaced gap tokens text) : Spaced gap tokens (c :: text)
  | token {tokens : List String} {text : List Char} (token : String)
      (h : Spaced gap tokens text) : Spaced gap (token :: tokens) (token.toList ++ text)

namespace Spaced

variable {gap : Char → Prop} {tokens tokens' : List String} {text text' : List Char}

/-- Two texts of tokens make one, with the tokens of both in order. -/
theorem append (h : Spaced gap tokens text) (h' : Spaced gap tokens' text') :
    Spaced gap (tokens ++ tokens') (text ++ text') := by
  induction h with
  | nil => exact h'
  | gap hc _ ih => exact .gap hc ih
  | token t _ ih =>
    rw [List.append_assoc]
    exact .token t ih

theorem single (token : String) : Spaced gap [token] token.toList := by
  have h : Spaced gap [token] (token.toList ++ []) := .token token .nil
  rwa [List.append_nil] at h

/-- A text of gaps alone holds no token. -/
theorem gaps (h : ∀ c ∈ text, gap c) : Spaced gap [] text := by
  induction text with
  | nil => exact .nil
  | cons c text ih =>
    obtain ⟨hc, htext⟩ := List.forall_mem_cons.mp h
    exact .gap hc (ih htext)

/-- More characters may be allowed in gaps. -/
theorem imp {gap' : Char → Prop} (hgap : ∀ c, gap c → gap' c) (h : Spaced gap tokens text) :
    Spaced gap' tokens text := by
  induction h with
  | nil => exact .nil
  | gap hc _ ih => exact .gap (hgap _ hc) ih
  | token t _ ih => exact .token t ih

/-- A character that is not allowed in gaps occurs only inside the tokens. -/
theorem count_eq {c : Char} (hc : ¬ gap c) (h : Spaced gap tokens text) :
    text.count c = (tokens.flatMap String.toList).count c := by
  induction h with
  | nil => rfl
  | gap hd _ ih =>
    have hne : ¬ _ = c := fun heq => hc (heq ▸ hd)
    rw [List.count_cons_of_ne hne, ih]
  | token t _ ih => rw [List.count_append, ih, List.flatMap_cons, List.count_append]

/-- A character that neither a gap nor a token has is not in the text. -/
theorem not_mem {c : Char} (hc : ¬ gap c) (h : Spaced gap tokens text)
    (htokens : ∀ token ∈ tokens, c ∉ token.toList) : c ∉ text := by
  rw [← List.count_eq_zero, h.count_eq hc, List.count_eq_zero, List.mem_flatMap]
  rintro ⟨token, htoken, hmem⟩
  exact htokens token htoken hmem

end Spaced

theorem spaced_blanks (n : Nat) : Spaced (· = ' ') [] (blanks n).toList := by
  refine .gaps ?_
  intro c hc
  rw [blanks, String.toList_ofList] at hc
  exact List.eq_of_mem_replicate hc

/-! ## Lines with all blocks collapsed -/

mutual

/-- **The text of a line with all its blocks collapsed**, whatever their widths are. -/
def Line.inlined : Line → String
  | .plain text => text
  | .block opening lines closing => opening ++ inlinedAll true lines ++ closing

/-- The texts of lines with all blocks collapsed, with blanks between them. -/
def inlinedAll (first : Bool) : List Line → String
  | [] => ""
  | line :: rest => (if first then "" else " ") ++ line.inlined ++ inlinedAll false rest

end

mutual

/-- **The gaps of a line with all its blocks collapsed**: one between any two lines of a block, for
its own block and all blocks inside it. -/
def Line.gaps : Line → Nat
  | .plain _ => 0
  | .block _ lines _ => (lines.length - 1) + gapsAll lines

/-- The gaps inside several lines. -/
def gapsAll : List Line → Nat
  | [] => 0
  | line :: rest => line.gaps + gapsAll rest

end

mutual

/-- **A collapsed line is its tokens with blanks between**, and nothing else. -/
theorem Line.spaced_inlined : ∀ line : Line, Spaced (· = ' ') line.tokens line.inlined.toList
  | .plain text => .single text
  | .block opening lines closing => by
    have hlines := spaced_inlinedAll true lines
    rw [Line.inlined, Line.tokens, String.toList_append, String.toList_append, List.append_assoc]
    exact .token opening (hlines.append (.single closing))

theorem spaced_inlinedAll : ∀ (first : Bool) (lines : List Line),
    Spaced (· = ' ') (tokensAll lines) (inlinedAll first lines).toList
  | _, [] => .nil
  | first, line :: rest => by
    have htexts := line.spaced_inlined.append (spaced_inlinedAll false rest)
    rw [inlinedAll, tokensAll, String.append_assoc, String.toList_append, String.toList_append]
    cases first with
    | true => exact htexts
    | false => exact .gap rfl htexts

end

mutual

/-- The text of a line with all its blocks collapsed is as wide as its tokens and its gaps. -/
theorem Line.utf8ByteSize_inlined : ∀ line : Line,
    line.inlined.utf8ByteSize = line.width + line.gaps
  | .plain _ => rfl
  | .block opening lines closing => by
    have hlines := utf8ByteSize_inlinedAll true lines
    rw [if_pos rfl] at hlines
    rw [Line.inlined, Line.width, Line.gaps, String.utf8ByteSize_append,
      String.utf8ByteSize_append, hlines]
    omega

/-- The length of collapsed lines: their tokens, the blanks inside them, and a blank before each
line but the first of all. -/
theorem utf8ByteSize_inlinedAll : ∀ (first : Bool) (lines : List Line),
    (inlinedAll first lines).utf8ByteSize =
      totalWidth lines + gapsAll lines + if first then lines.length - 1 else lines.length
  | first, [] => by cases first <;> rfl
  | first, line :: rest => by
    have hline := line.utf8ByteSize_inlined
    have hrest := utf8ByteSize_inlinedAll false rest
    have hblank : " ".utf8ByteSize = 1 := rfl
    rw [if_neg (by decide)] at hrest
    rw [inlinedAll, totalWidth, gapsAll, String.utf8ByteSize_append, String.utf8ByteSize_append,
      hline, hrest, List.length_cons]
    -- the first line has no blank in front
    cases first with
    | true =>
      rw [if_pos rfl, if_pos rfl, String.utf8ByteSize_empty]
      omega
    | false =>
      rw [if_neg (by decide), if_neg (by decide), hblank]
      omega

end

/-! ## What fits on a line -/

/-- **A line fits** behind some blanks: no block has to be expanded in it, and its tokens end
before the last column. -/
structure Line.Fits (indent : Nat) (line : Line) : Prop where
  holdsNone : line.holdsExpanded = false
  narrow : indent + line.width < maxWidth

/-- **A block is collapsed exactly if it fits.** -/
theorem collapses_iff_fits {indent : Nat} {opening closing : String} {lines : List Line} :
    collapses indent opening lines closing = true ↔
      (Line.block opening lines closing).Fits indent := by
  rw [collapses, Bool.and_eq_true, Bool.not_eq_true', decide_eq_true_iff, Nat.add_assoc]
  exact ⟨fun h => ⟨h.1, h.2⟩, fun h => ⟨h.holdsNone, h.narrow⟩⟩

/-- Lines hold a block that has to be expanded if one of them does. -/
theorem anyHoldsExpanded_eq_any (lines : List Line) :
    anyHoldsExpanded lines = lines.any Line.holdsExpanded := by
  induction lines with
  | nil => rfl
  | cons line rest ih => rw [anyHoldsExpanded, List.any_cons, ih]

/-- No line is wider than all lines together. -/
theorem Line.width_le_totalWidth {line : Line} {lines : List Line} (h : line ∈ lines) :
    line.width ≤ totalWidth lines := by
  induction lines with
  | nil => cases h
  | cons first rest ih =>
    rw [totalWidth]
    rcases List.mem_cons.mp h with rfl | hrest
    · omega
    · have hle := ih hrest
      omega

/-- What is inside a block that fits does so without indentation. -/
theorem Line.Fits.of_mem {indent : Nat} {opening closing : String} {lines : List Line}
    (h : (Line.block opening lines closing).Fits indent) {line : Line} (hmem : line ∈ lines) :
    line.Fits 0 := by
  have hnone := h.holdsNone
  have hnarrow := h.narrow
  have hwidth := Line.width_le_totalWidth hmem
  rw [Line.holdsExpanded, Bool.or_eq_false_iff, anyHoldsExpanded_eq_any,
    List.any_eq_false] at hnone
  rw [Line.width] at hnarrow
  refine ⟨?_, ?_⟩
  · exact Bool.eq_false_iff.mpr (hnone.2 line hmem)
  · omega

/-- **Inside a line that fits, every line fits** where it is written. -/
theorem Writes.fits {outer inner : Line} {s t : Site} (h : Writes outer s inner t)
    (hfits : outer.Fits s.indent) : inner.Fits t.indent := by
  induction h with
  | self => exact hfits
  | collapsed _ _ ih => exact ih.of_mem (by simp)
  | expanded _ hexpands ih =>
    -- a block that fits is not expanded
    rw [collapses_iff_fits.mpr ih] at hexpands
    cases hexpands

mutual

/-- Without indentation, a line that fits is written with all its blocks collapsed. -/
theorem Line.Fits.text_eq : ∀ {line : Line}, line.Fits 0 → ∀ depth : Nat,
    line.text depth 0 = line.inlined
  | .plain text, _, depth => by
    rw [Line.text, Line.inlined]
    split
    · rename_i hempty
      exact (String.isEmpty_iff.mp hempty).symm
    · exact String.empty_append
  | .block opening lines closing, h, depth => by
    have hlines : ∀ line ∈ lines, line.Fits 0 := fun line => h.of_mem
    rw [Line.text, if_pos (collapses_iff_fits.mpr h), Line.inlined,
      collapsedText_eq_inlinedAll hlines]
    rfl

theorem collapsedText_eq_inlinedAll : ∀ {lines : List Line}, (∀ line ∈ lines, line.Fits 0) →
    ∀ (depth : Nat) (first : Bool), collapsedText depth first lines = inlinedAll first lines
  | [], _, _, _ => rfl
  | line :: rest, h, depth, first => by
    obtain ⟨hline, hrest⟩ := List.forall_mem_cons.mp h
    rw [collapsedText, inlinedAll, hline.text_eq, collapsedText_eq_inlinedAll hrest]

end

/-! ## Collapsed blocks -/

theorem utf8ByteSize_blanks (n : Nat) : (blanks n).utf8ByteSize = n := by
  induction n with
  | zero => rfl
  | succ n ih =>
    have hsplit : blanks (n + 1) = " " ++ blanks n := by
      apply String.toList_inj.mp
      simp [blanks, List.replicate_succ]
    have hblank : " ".utf8ByteSize = 1 := rfl
    rw [hsplit, String.utf8ByteSize_append, ih, hblank, Nat.add_comm]

/-- The text of a collapsed block, behind its indentation. -/
theorem text_eq_inlined {indent : Nat} {opening closing : String} {lines : List Line}
    (h : collapses indent opening lines closing = true) (depth : Nat) :
    (Line.block opening lines closing).text depth indent =
      blanks indent ++ (Line.block opening lines closing).inlined := by
  have hlines : ∀ line ∈ lines, line.Fits 0 := fun line => (collapses_iff_fits.mp h).of_mem
  rw [Line.text, if_pos h, Line.inlined, collapsedText_eq_inlinedAll hlines]
  simp only [String.append_assoc]

/-- **A collapsed block is one line of the width that was foreseen.** Every block inside it is
collapsed too, where it is written. The text is that of the tokens with nothing but blanks around
them, so it breaks only where tokens do, and it has the width from which the block was collapsed
and one blank between any two lines of the same block. -/
theorem text_of_collapses {opening closing : String} {lines : List Line} {s : Site}
    (h : collapses s.indent opening lines closing = true) :
    (∀ innerOpening innerLines innerClosing t,
      Writes (.block opening lines closing) s (.block innerOpening innerLines innerClosing) t →
        collapses t.indent innerOpening innerLines innerClosing = true) ∧
    Spaced (· = ' ') (Line.block opening lines closing).tokens
      ((Line.block opening lines closing).text s.depth s.indent).toList ∧
    ((Line.block opening lines closing).text s.depth s.indent).toList.count '\n' =
      ((Line.block opening lines closing).tokens.flatMap String.toList).count '\n' ∧
    ((Line.block opening lines closing).text s.depth s.indent).utf8ByteSize =
      s.indent + opening.utf8ByteSize + (closing.utf8ByteSize + totalWidth lines) +
        (Line.block opening lines closing).gaps := by
  have hspaced : Spaced (· = ' ') (Line.block opening lines closing).tokens
      ((Line.block opening lines closing).text s.depth s.indent).toList := by
    rw [text_eq_inlined h, String.toList_append]
    exact (spaced_blanks s.indent).append (Line.block opening lines closing).spaced_inlined
  refine ⟨?_, hspaced, hspaced.count_eq (by decide), ?_⟩
  · -- collapsing means fitting, and what is inside a line that fits does so too
    intro innerOpening innerLines innerClosing t hwrites
    exact collapses_iff_fits.mpr (hwrites.fits (collapses_iff_fits.mp h))
  · rw [text_eq_inlined h, String.utf8ByteSize_append, utf8ByteSize_blanks,
      Line.utf8ByteSize_inlined, Line.width]
    omega

/-- Lines with a block among them, and an empty line. -/
def ruleLines : List Line :=
  [.block "any: [" [.plain "1,", .plain "2"] "],", .plain "", .plain "last: 3"]

/-- Eight blanks and the tokens of two blocks, with three blanks between their lines. -/
theorem text_of_collapses_rule :
    collapses 8 "rule: \x7b" ruleLines "\x7d" = true ∧
    (Line.block "rule: \x7b" ruleLines "\x7d").text 2 8 =
      "        rule: \x7bany: [1, 2],  last: 3\x7d" ∧
    ((Line.block "rule: \x7b" ruleLines "\x7d").text 2 8).utf8ByteSize =
      8 + 7 + (1 + totalWidth ruleLines) + 3 := by
  have h : collapses 8 "rule: \x7b" ruleLines "\x7d" = true := by decide
  exact ⟨h, rfl, (text_of_collapses (s := { depth := 2, indent := 8 }) h).2.2.2⟩

end Layout

end ProtoSchema
