/-
Blocks that are always expanded stay on lines of their own.

The kind of a block is read off its opening token. A block that is always expanded does not fit
anywhere, and neither does any block around it, however narrow it is: each of them decides by
itself, but they all see that they hold it (`Writes.holdsExpanded`). So the block and all blocks
around it are written expanded where they stand in the text (`Writes.isExpanded`).
-/
import ProtoSchema.Proofs.Layout.Collapsing

set_option autoImplicit false

namespace ProtoSchema

namespace Layout

/-! ## The blocks of a body -/

mutual

/-- **The blocks of a line** at any depth, in the order of their opening tokens: the opening and
the closing token of each. -/
def Line.blocks : Line → List (String × String)
  | .plain _ => []
  | .block opening lines closing => (opening, closing) :: blocksOf lines

/-- The blocks of several lines. -/
def blocksOf : List Line → List (String × String)
  | [] => []
  | line :: rest => line.blocks ++ blocksOf rest

end

theorem blocksOf_singleton (line : Line) : blocksOf [line] = line.blocks := by
  rw [blocksOf, blocksOf, List.append_nil]

theorem blocksOf_append (lines others : List Line) :
    blocksOf (lines ++ others) = blocksOf lines ++ blocksOf others := by
  induction lines with
  | nil => rfl
  | cons line rest ih => rw [List.cons_append, blocksOf, blocksOf, ih, List.append_assoc]

mutual

/-- **Every block of a line is written somewhere.** -/
theorem Line.exists_writes : ∀ {line : Line} {b : String × String}, b ∈ line.blocks →
    ∀ s : Site, ∃ lines t, Writes line s (.block b.1 lines b.2) t
  | .plain _, _, h, _ => nomatch h
  | .block opening lines closing, b, h, s => by
    rcases List.mem_cons.mp h with rfl | hinside
    · exact ⟨lines, s, .self⟩
    · obtain ⟨line, hline, hb⟩ := exists_writes_of_mem_blocksOf hinside
      obtain ⟨r, hr⟩ := Writes.exists_of_mem hline s
      obtain ⟨inner, t, ht⟩ := hb r
      exact ⟨inner, t, hr.trans ht⟩

theorem exists_writes_of_mem_blocksOf : ∀ {lines : List Line} {b : String × String},
    b ∈ blocksOf lines →
      ∃ line ∈ lines, ∀ s : Site, ∃ inner t, Writes line s (.block b.1 inner b.2) t
  | [], _, h => nomatch h
  | line :: rest, b, h => by
    rcases List.mem_append.mp h with hline | hrest
    · exact ⟨line, List.mem_cons_self, Line.exists_writes hline⟩
    · obtain ⟨other, hother, hb⟩ := exists_writes_of_mem_blocksOf hrest
      exact ⟨other, List.mem_cons_of_mem _ hother, hb⟩

end

/-- **Every block of a body is written somewhere** in its text. -/
theorem exists_writesIn {body : Body} {b : String × String} (h : b ∈ blocksOf body) :
    ∃ lines s, WritesIn body (.block b.1 lines b.2) s := by
  obtain ⟨line, hline, hb⟩ := exists_writes_of_mem_blocksOf h
  obtain ⟨earlier, later, rfl⟩ := List.append_of_mem hline
  obtain ⟨lines, s, hs⟩ := hb (.top earlier later)
  exact ⟨lines, s, earlier, line, later, rfl, hs⟩

/-! ## Expanded blocks -/

/-- **A block is expanded in a text**, at its place: its opening token is followed by a line break,
and between the last break before its closing token and the token there are only blanks. -/
def Site.IsExpanded (s : Site) (text opening closing : String) : Prop :=
  ∃ inner, text = s.before ++ blanks s.indent ++ opening ++ "\n" ++ inner ++ "\n" ++
    blanks s.indent ++ closing ++ s.after

/-- What holds a block that is always expanded is seen from all blocks around it. -/
theorem Writes.holdsExpanded {outer inner : Line} {s t : Site} (h : Writes outer s inner t)
    (hinner : inner.holdsExpanded = true) : outer.holdsExpanded = true := by
  have hblock : ∀ {opening closing : String} {earlier later : List Line} {line : Line},
      line.holdsExpanded = true →
        (Line.block opening (earlier ++ line :: later) closing).holdsExpanded = true := by
    intro opening closing earlier later line hline
    rw [Line.holdsExpanded, anyHoldsExpanded_eq_any, Bool.or_eq_true, List.any_eq_true]
    exact .inr ⟨line, by simp, hline⟩
  induction h with
  | self => exact hinner
  | collapsed _ _ ih => exact ih (hblock hinner)
  | expanded _ _ ih => exact ih (hblock hinner)

/-- **A block that holds one that is always expanded is expanded** at its place. -/
theorem WritesIn.isExpanded {body : Body} {opening closing : String} {lines : List Line} {s : Site}
    (h : WritesIn body (.block opening lines closing) s)
    (hholds : (Line.block opening lines closing).holdsExpanded = true) :
    s.IsExpanded (render body) opening closing := by
  have hcollapses : ¬ collapses s.indent opening lines closing = true := by
    intro hcollapses
    have hnone := (collapses_iff_fits.mp hcollapses).holdsNone
    rw [hholds] at hnone
    cases hnone
  refine ⟨expandedText (s.depth + 1) true lines, ?_⟩
  rw [← h.text_eq, Site.text, Line.text, if_neg hcollapses]
  simp only [String.append_assoc]

/-- **A block that is always expanded, and every block around it, is expanded** at its place. -/
theorem WritesIn.isExpanded_around {body : Body} {opening closing : String} {lines : List Line}
    {s : Site} (hopening : alwaysExpands opening = true) {outerOpening outerClosing : String}
    {outerLines : List Line} {r : Site}
    (houter : WritesIn body (.block outerOpening outerLines outerClosing) r)
    (hinner : Writes (.block outerOpening outerLines outerClosing) r
      (.block opening lines closing) s) :
    r.IsExpanded (render body) outerOpening outerClosing := by
  have hholds : (Line.block opening lines closing).holdsExpanded = true := by
    rw [Line.holdsExpanded, hopening, Bool.true_or]
  exact houter.isExpanded (hinner.holdsExpanded hholds)

end Layout

end ProtoSchema
