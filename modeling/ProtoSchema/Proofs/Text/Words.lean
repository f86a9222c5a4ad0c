/-
Bare words of written values.

Names, truth values and numbers are written without quotes, as words: runs of letters, digits
and a few signs. A word ends at the first character that cannot stand in one, so a text is cut
into its words in one way (`word_append_inj`). Numbers and identifiers are told apart by their
first character: a digit or a minus sign, or a letter or an underscore.
-/
import Mathlib.Data.String.Basic
import ProtoSchema.Json.Number

set_option autoImplicit false

namespace ProtoSchema

/-! ## Words -/

/-- Whether a character can stand in a bare word. -/
def isWordChar (c : Char) : Bool := c.isAlphanum || c == '_' || c == '.' || c == '+' || c == '-'

/-- **A bare word**: characters that can stand in a word, and at least one of them. -/
structure IsWord (cs : List Char) : Prop where
  ne_nil : cs ≠ []
  forall_mem : ∀ c ∈ cs, isWordChar c = true

/-- Text in front of which a word ends. -/
def EndsWord (cs : List Char) : Prop := ∀ c ∈ cs.head?, isWordChar c = false

/-- A reader of word characters stops where the word ends. -/
theorem takeWhile_word_append {cs r : List Char} (hcs : ∀ c ∈ cs, isWordChar c = true)
    (hr : EndsWord r) : (cs ++ r).takeWhile isWordChar = cs := by
  rw [List.takeWhile_append_of_pos hcs]
  cases r with
  | nil => simp
  | cons c r => simp [hr c rfl]

/-- **Words are read in one way**, up to the first character that cannot stand in one. -/
theorem word_append_inj {cs ds r s : List Char} (hcs : IsWord cs) (hds : IsWord ds)
    (hr : EndsWord r) (hs : EndsWord s) (h : cs ++ r = ds ++ s) : cs = ds ∧ r = s := by
  have hword : cs = ds := by
    rw [← takeWhile_word_append hcs.forall_mem hr, h, takeWhile_word_append hds.forall_mem hs]
  exact ⟨hword, List.append_cancel_left (hword ▸ h)⟩

/-- Text that starts with a word does not start with any other character. -/
theorem word_append_ne_cons {cs : List Char} (h : IsWord cs) {c : Char}
    (hc : isWordChar c = false) (r s : List Char) : cs ++ r ≠ c :: s := by
  obtain ⟨d, ds, rfl⟩ := List.exists_cons_of_ne_nil h.ne_nil
  intro heq
  have hd := h.forall_mem d List.mem_cons_self
  rw [(List.cons.inj heq).1, hc] at hd
  cases hd

theorem endsWord_cons {c : Char} {cs : List Char} (h : isWordChar c = false) :
    EndsWord (c :: cs) := by
  intro d hd
  cases hd
  exact h

theorem isWordChar_of_isDigit {c : Char} (h : c.isDigit = true) : isWordChar c = true := by
  simp [isWordChar, Char.isAlphanum, h]

theorem isWordChar_of_mem_toDigits {n : Nat} {c : Char} (h : c ∈ Nat.toDigits 10 n) :
    isWordChar c = true :=
  isWordChar_of_isDigit (Nat.isDigit_of_mem_toDigits (by decide) (by decide) h)

/-! ## Numbers -/

/-- Text of a number without its sign: word characters, a digit first. -/
structure IsNumeral (cs : List Char) : Prop where
  head : ∃ c ∈ cs.head?, c.isDigit = true
  forall_mem : ∀ c ∈ cs, isWordChar c = true

/-- A numeral stays one with more word characters behind it. -/
theorem IsNumeral.append {cs ds : List Char} (hcs : IsNumeral cs)
    (hds : ∀ c ∈ ds, isWordChar c = true) : IsNumeral (cs ++ ds) := by
  obtain ⟨c, hc, hdigit⟩ := hcs.head
  refine ⟨⟨c, List.mem_head?_append_of_mem_head? hc, hdigit⟩, ?_⟩
  intro d hd
  exact (List.mem_append.mp hd).elim (hcs.forall_mem d) (hds d)

/-- The first digits of a natural number are a numeral. -/
theorem isNumeral_take_toDigits (n k : Nat) : IsNumeral ((Nat.toDigits 10 n).take (k + 1)) := by
  obtain ⟨c, cs, hdigits⟩ := List.exists_cons_of_ne_nil (Nat.toDigits_ne_nil (n := n) (b := 10))
  have hmem : ∀ d ∈ c :: cs, d.isDigit = true := by
    intro d hd
    exact Nat.isDigit_of_mem_toDigits (by decide) (by decide) (hdigits ▸ hd)
  rw [hdigits, List.take_succ_cons]
  refine ⟨⟨c, rfl, hmem c List.mem_cons_self⟩, ?_⟩
  intro d hd
  refine isWordChar_of_isDigit (hmem d ?_)
  rcases List.mem_cons.mp hd with rfl | hd
  · exact List.mem_cons_self
  · exact List.mem_cons_of_mem _ (List.mem_of_mem_take hd)

/-- Decimal digits are a numeral. -/
theorem isNumeral_toDigits (n : Nat) : IsNumeral (Nat.toDigits 10 n) := by
  have h := isNumeral_take_toDigits n (Nat.toDigits 10 n).length
  rwa [List.take_of_length_le (by omega)] at h

namespace FloatFormat

/-- A number written out with its point is a numeral. -/
theorem isNumeral_positional (d : Decimal) (lead : Int) :
    IsNumeral (positional d.digitChars lead) := by
  have hdigits : ∀ c ∈ d.digitChars, isWordChar c = true := fun c => isWordChar_of_mem_toDigits
  have hzeros : ∀ n, ∀ c ∈ zeros n, isWordChar c = true := by
    intro n c hc
    rw [List.eq_of_mem_replicate hc]
    decide
  unfold positional
  split
  · -- below one there is a zero in front of the point
    refine ⟨⟨'0', rfl, by decide⟩, ?_⟩
    simp only [List.forall_mem_cons, List.forall_mem_append]
    exact ⟨by decide, by decide, hzeros _, hdigits⟩
  · -- otherwise digits stand in front of it, filled up with zeros where they run out
    have hwhole := (isNumeral_take_toDigits d.digits lead.toNat).append
      (hzeros (lead.toNat + 1 - d.digitChars.length))
    refine hwhole.append ?_
    rw [List.forall_mem_cons]
    refine ⟨by decide, ?_⟩
    split
    · exact List.all_eq_true.mp rfl
    · intro c hc
      exact hdigits c (List.mem_of_mem_drop hc)

/-- So is a number written with an exponent. -/
theorem isNumeral_scientific (d : Decimal) (lead : Int) :
    IsNumeral (scientific d.digitChars lead) := by
  have hfraction : ∀ c ∈ (if (d.digitChars.drop 1).isEmpty then [] else '.' :: d.digitChars.drop 1),
      isWordChar c = true := by
    split
    · simp
    · rw [List.forall_mem_cons]
      refine ⟨by decide, ?_⟩
      intro c hc
      exact isWordChar_of_mem_toDigits (List.mem_of_mem_drop hc)
  refine ((isNumeral_take_toDigits d.digits 0).append hfraction).append ?_
  rw [List.forall_mem_cons, List.forall_mem_cons]
  refine ⟨by decide, ?_, fun c => isWordChar_of_mem_toDigits⟩
  split <;> decide

end FloatFormat

namespace Json.Number

/-- **The text of a number** is a numeral behind an optional sign. -/
theorem exists_numeral (n : Json.Number) :
    ∃ negative : Bool, ∃ cs, n.text.toList = (if negative then ['-'] else []) ++ cs ∧
      IsNumeral cs := by
  cases n with
  | int n =>
    refine ⟨decide (n < 0), _, ?_, isNumeral_toDigits n.natAbs⟩
    rw [text, intText, String.toList_ofList]
    simp
  | float x =>
    refine ⟨x.negative, _, String.toList_ofList, ?_⟩
    split
    · exact ⟨⟨'0', rfl, by decide⟩, List.all_eq_true.mp rfl⟩
    · dsimp only
      split
      · exact FloatFormat.isNumeral_positional _ _
      · exact FloatFormat.isNumeral_scientific _ _

/-- The text of a number starts with a digit or a minus sign. -/
theorem head_text (n : Json.Number) : ∃ c ∈ n.text.toList.head?, c.isDigit = true ∨ c = '-' := by
  obtain ⟨negative, cs, htext, hcs⟩ := n.exists_numeral
  rw [htext]
  cases negative with
  | true => exact ⟨'-', rfl, .inr rfl⟩
  | false =>
    obtain ⟨c, hc, hdigit⟩ := hcs.head
    exact ⟨c, hc, .inl hdigit⟩

/-- **A number is written as a bare word.** -/
theorem isWord_text (n : Json.Number) : IsWord n.text.toList := by
  obtain ⟨negative, cs, htext, hcs⟩ := n.exists_numeral
  refine ⟨?_, ?_⟩
  · obtain ⟨c, hc, -⟩ := n.head_text
    rintro hnil
    rw [hnil] at hc
    cases hc
  · rw [htext, List.forall_mem_append]
    refine ⟨?_, hcs.forall_mem⟩
    cases negative <;> exact List.all_eq_true.mp rfl

end Json.Number

/-! ## Identifiers -/

/-- Whether a character can start an identifier. -/
def isNameStart (c : Char) : Bool := c.isAlpha || c == '_'

/-- **Whether a string is an identifier**: ASCII letters, digits and underscores, no digit
first. -/
def isIdentifier (s : String) : Bool :=
  match s.toList with
  | [] => false
  | c :: cs => isNameStart c && cs.all fun d => d.isAlphanum || d == '_'

theorem head_of_isIdentifier {s : String} (h : isIdentifier s = true) :
    ∃ c ∈ s.toList.head?, isNameStart c = true := by
  unfold isIdentifier at h
  split at h
  · cases h
  · rename_i c cs heq
    rw [heq]
    exact ⟨c, rfl, (Bool.and_eq_true_iff.mp h).1⟩

/-- No digit starts an identifier. -/
theorem not_isDigit_of_isNameStart {c : Char} (h : isNameStart c = true) : ¬ c.isDigit = true := by
  intro hdigit
  have hall : ∀ n < 58, 48 ≤ n → isNameStart (Char.ofNat n) = false := by decide
  obtain ⟨hlow, hhigh⟩ := Char.isDigit_iff_toNat.mp hdigit
  have hnot := hall c.toNat (Nat.lt_succ_of_le hhigh) hlow
  rw [Char.ofNat_toNat, h] at hnot
  cases hnot

/-- **An identifier is a bare word.** -/
theorem isWord_of_isIdentifier {s : String} (h : isIdentifier s = true) : IsWord s.toList := by
  unfold isIdentifier at h
  split at h
  · cases h
  · rename_i c cs heq
    rw [heq]
    simp only [Bool.and_eq_true, List.all_eq_true, Bool.or_eq_true, isNameStart] at h
    refine ⟨List.cons_ne_nil _ _, ?_⟩
    rw [List.forall_mem_cons]
    refine ⟨?_, ?_⟩
    · rcases h.1 with hc | hc <;> simp [isWordChar, Char.isAlphanum, hc]
    · intro d hd
      rcases h.2 d hd with hd | hd <;> simp [isWordChar, hd]

end ProtoSchema
