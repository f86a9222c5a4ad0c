/-
Text without its layout.

Writing a body puts blanks and line breaks between its tokens. They can be taken out again
without knowing where the tokens end (`strip`): outside literals no token has a blank in it, and
a literal ends at the first quote that is not escaped. What is left of a line does not depend on
whether its block was collapsed or expanded, nor on how deep it stands.
-/
import ProtoSchema.Layout
import ProtoSchema.Proofs.Literal
import ProtoSchema.Proofs.Text.Words

set_option autoImplicit false

namespace ProtoSchema

namespace Layout

/-- Where a reader of a text stands. -/
inductive Place where
  /-- Outside literals. -/
  | outside
  /-- Inside a literal. -/
  | inside
  /-- Inside a literal, behind a backslash. -/
  | escaped

/-- The text that follows a place, without blanks and line breaks outside literals. -/
def stripFrom : Place → List Char → List Char
  | _, [] => []
  | .outside, c :: cs =>
    if c = ' ' ∨ c = '\n' then stripFrom .outside cs
    else c :: stripFrom (if c = '"' then .inside else .outside) cs
  | .inside, c :: cs =>
    c :: stripFrom (if c = '"' then .outside else if c = '\\' then .escaped else .inside) cs
  | .escaped, c :: cs => c :: stripFrom .inside cs

/-- **A text without its layout**: without blanks and line breaks outside literals. -/
def strip (cs : List Char) : List Char := stripFrom .outside cs

/-- A text that strips to another one, whatever follows it. -/
def StripsTo (x y : List Char) : Prop := ∀ rest, strip (x ++ rest) = y ++ strip rest

namespace StripsTo

theorem nil : StripsTo [] [] := fun _ => rfl

/-- Texts that strip to something whatever follows can be put together. -/
theorem append {x y x' y' : List Char} (h : StripsTo x y) (h' : StripsTo x' y') :
    StripsTo (x ++ x') (y ++ y') := by
  intro rest
  rw [List.append_assoc, h, h', List.append_assoc]

/-- Blanks and line breaks are stripped. -/
theorem white {c : Char} (h : c = ' ' ∨ c = '\n') : StripsTo [c] [] := by
  intro rest
  rw [List.singleton_append, strip, stripFrom, if_pos h]
  rfl

theorem blanks (n : Nat) : StripsTo (Layout.blanks n).toList [] := by
  rw [Layout.blanks, String.toList_ofList]
  induction n with
  | zero => exact nil
  | succ n ih =>
    rw [List.replicate_succ, ← List.singleton_append]
    exact (white (.inl rfl)).append ih

/-- What is neither white nor a quote stays. -/
theorem plain {cs : List Char} (h : ∀ c ∈ cs, ¬ (c = ' ' ∨ c = '\n') ∧ c ≠ '"') :
    StripsTo cs cs := by
  induction cs with
  | nil => exact nil
  | cons c cs ih =>
    obtain ⟨⟨hwhite, hquote⟩, hcs⟩ := List.forall_mem_cons.mp h
    intro rest
    rw [List.cons_append, strip, stripFrom, if_neg hwhite, if_neg hquote]
    exact congrArg (c :: ·) (ih hcs rest)

/-- A single character stays if it is neither white nor a quote. -/
theorem mark {c : Char} (h : ¬ (c = ' ' ∨ c = '\n') ∧ c ≠ '"') : StripsTo [c] [c] :=
  plain (List.forall_mem_singleton.mpr h)

/-- A literal stays as it is, with the blanks in it. -/
theorem literal {body : List Char} (h : Literal.Escaped body) :
    StripsTo ('"' :: (body ++ ['"'])) ('"' :: (body ++ ['"'])) := by
  have hbody : ∀ rest, stripFrom .inside (body ++ '"' :: rest) = body ++ '"' :: strip rest := by
    intro rest
    induction h with
    | nil => rfl
    | plain hquote hslash _ _ ih =>
      rw [List.cons_append, stripFrom, if_neg hquote, if_neg hslash, ih]
      rfl
    | pair _ _ ih =>
      rw [List.cons_append, List.cons_append, stripFrom, if_neg (by decide), if_pos rfl, stripFrom,
        ih]
      rfl
  intro rest
  rw [List.cons_append, List.append_assoc, strip, stripFrom, if_neg (by decide), if_pos rfl]
  simp only [List.cons_append, List.nil_append, List.append_assoc, hbody]

/-- A bare word holds neither white characters nor quotes, so it stays. -/
theorem word {cs : List Char} (h : IsWord cs) : StripsTo cs cs := by
  refine plain ?_
  intro c hc
  have hword := h.forall_mem c hc
  refine ⟨?_, ?_⟩
  · rintro (rfl | rfl) <;> exact absurd hword (by decide)
  · rintro rfl
    exact absurd hword (by decide)

end StripsTo

/-! ## Lines and blocks -/

/-- A line that strips to a text, wherever it is written. -/
def LineStripsTo (line : Line) (y : List Char) : Prop :=
  ∀ depth indent, StripsTo (line.text depth indent).toList y

/-- Lines that strip to a text, whether they are written after or below each other. -/
def LinesStripTo (lines : List Line) (y : List Char) : Prop :=
  ∀ depth first, StripsTo (collapsedText depth first lines).toList y ∧
    StripsTo (expandedText depth first lines).toList y

theorem linesStripTo_nil : LinesStripTo [] [] := fun _ _ => ⟨.nil, .nil⟩

/-- A line and those after it strip to what they strip to alone. -/
theorem LineStripsTo.cons {line : Line} {lines : List Line} {x y : List Char}
    (hline : LineStripsTo line x) (hlines : LinesStripTo lines y) :
    LinesStripTo (line :: lines) (x ++ y) := by
  have hgap : ∀ (first : Bool) {c : Char}, c = ' ' ∨ c = '\n' →
      StripsTo (if first then "" else String.singleton c).toList [] := by
    intro first c hc
    cases first with
    | true => exact .nil
    | false =>
      rw [if_neg (by decide), String.toList_singleton]
      exact .white hc
  -- in both layouts only a gap and an indentation stand between the line and the next ones
  intro depth first
  obtain ⟨hcollapsed, hexpanded⟩ := hlines depth false
  refine ⟨?_, ?_⟩
  · rw [collapsedText, String.toList_append, String.toList_append]
    exact ((hgap first (.inl rfl)).append (hline depth 0)).append hcollapsed
  · rw [expandedText, String.toList_append, String.toList_append]
    exact ((hgap first (.inr rfl)).append (hline depth _)).append hexpanded

/-- **A block strips to its tokens**, whether it is collapsed or expanded. -/
theorem text_block {lines : List Line} {opening closing : String} {x y z : List Char}
    (hopening : StripsTo opening.toList x) (hlines : LinesStripTo lines y)
    (hclosing : StripsTo closing.toList z) (before after : String) (depth indent : Nat) :
    ∃ core, ((Line.block (before ++ opening) lines (closing ++ after)).text depth indent).toList =
        (blanks indent).toList ++ (before.toList ++ (core ++ after.toList)) ∧
      StripsTo core (x ++ (y ++ z)) := by
  obtain ⟨hcollapsed, hexpanded⟩ := hlines (depth + 1) true
  rw [Line.text]
  split
  · refine ⟨opening.toList ++ ((collapsedText (depth + 1) true lines).toList ++ closing.toList),
      ?_, ?_⟩
    · simp only [String.toList_append, List.append_assoc]
    · exact hopening.append (hcollapsed.append hclosing)
  · -- expanded, there are more blanks and line breaks, and these strip to nothing
    have hbreak : StripsTo "\n".toList [] := .white (.inr rfl)
    refine ⟨opening.toList ++ ("\n".toList ++ ((expandedText (depth + 1) true lines).toList ++
      ("\n".toList ++ ((blanks indent).toList ++ closing.toList)))), ?_, ?_⟩
    · simp only [String.toList_append, List.append_assoc]
    · exact hopening.append (hbreak.append (hexpanded.append
        (hbreak.append ((StripsTo.blanks indent).append hclosing))))

end Layout

end ProtoSchema
