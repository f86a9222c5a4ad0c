/-
Cutting a text at a separator.

A text with `n` separators has `n + 1` pieces, so that there is always one. The pieces hold no
separator, and a separator in a text divides the pieces before it from those after it.
-/

set_option autoImplicit false

namespace ProtoSchema

/-- **The pieces of a text** between the occurrences of a separator; never none. -/
def splitChars (separator : Char) : List Char → List (List Char)
  | [] => [[]]
  | c :: rest =>
    if c = separator then [] :: splitChars separator rest
    else
      match splitChars separator rest with
      | [] => [[c]]
      | first :: more => (c :: first) :: more

/-- Also the empty text has a piece. -/
theorem splitChars_ne_nil (sep : Char) (cs : List Char) : splitChars sep cs ≠ [] := by
  induction cs with
  | nil => exact List.cons_ne_nil _ _
  | cons c cs ih =>
    unfold splitChars
    split
    · exact List.cons_ne_nil _ _
    · split <;> exact List.cons_ne_nil _ _

/-- A text with a separator in it is cut there. -/
theorem splitChars_append (sep : Char) (cs ds : List Char) :
    splitChars sep (cs ++ sep :: ds) = splitChars sep cs ++ splitChars sep ds := by
  induction cs with
  | nil =>
    rw [List.nil_append, splitChars.eq_2, if_pos rfl]
    rfl
  | cons c cs ih =>
    rw [List.cons_append, splitChars, splitChars]
    by_cases hc : c = sep
    · rw [if_pos hc, if_pos hc, ih, List.cons_append]
    · obtain ⟨first, more, hsplit⟩ := List.exists_cons_of_ne_nil (splitChars_ne_nil sep cs)
      rw [if_neg hc, if_neg hc, ih, hsplit]
      rfl

/-- A text without separators is its only piece. -/
theorem splitChars_eq_singleton {sep : Char} {cs : List Char} (h : sep ∉ cs) :
    splitChars sep cs = [cs] := by
  induction cs with
  | nil => rfl
  | cons c cs ih =>
    rw [List.mem_cons, not_or] at h
    obtain ⟨hc, hcs⟩ := h
    rw [splitChars, if_neg (Ne.symm hc), ih hcs]

/-- No piece has a separator in it. -/
theorem not_mem_of_mem_splitChars {sep : Char} {cs piece : List Char}
    (h : piece ∈ splitChars sep cs) : sep ∉ piece := by
  induction cs generalizing piece with
  | nil =>
    rw [List.mem_singleton.mp h]
    exact List.not_mem_nil
  | cons c cs ih =>
    obtain ⟨first, more, hsplit⟩ := List.exists_cons_of_ne_nil (splitChars_ne_nil sep cs)
    rw [splitChars] at h
    by_cases hc : c = sep
    · rw [if_pos hc] at h
      rcases List.mem_cons.mp h with rfl | h
      · exact List.not_mem_nil
      · exact ih h
    · rw [if_neg hc, hsplit] at h
      rcases List.mem_cons.mp h with rfl | h
      · rw [List.mem_cons, not_or]
        exact ⟨Ne.symm hc, ih (hsplit ▸ List.mem_cons_self)⟩
      · exact ih (hsplit ▸ List.mem_cons_of_mem _ h)

/-- A break in a text ends a line. -/
theorem splitChars_break (s t : String) :
    splitChars '\n' (s ++ "\n" ++ t).toList =
      splitChars '\n' s.toList ++ splitChars '\n' t.toList := by
  have hbreak : (s ++ "\n" ++ t).toList = s.toList ++ '\n' :: t.toList := by
    rw [String.toList_append, String.toList_append, List.append_assoc]
    rfl
  rw [hbreak, splitChars_append]

end ProtoSchema
