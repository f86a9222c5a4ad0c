/-
What the name of a zero constant is made of.

Cutting a text into words loses none of its units, the separators apart (`flatten_words`), and the
last word of a zero constant's name is always `UNSPECIFIED`: every letter, digit or underscore in
front of the capital `U` ends a word there (`exists_words_append`). A capital does so by the rule
for acronyms, because a lower-case letter follows the `U`.

For a name of ASCII letters, digits and underscores every unit is a single character, so the same
can be said of the characters: the constant's name has capitals, digits and underscores only, and
without its underscores it is the enum's name in capitals, followed by `UNSPECIFIED`.
-/
import Mathlib.Data.String.Basic
import ProtoSchema.ConstantName

set_option autoImplicit false

namespace ProtoSchema

namespace Cluster

/-- In ASCII text every character is a text unit of its own. -/
theorem unitsFrom_of_ascii {c : Char} {cs : List Char} (hc : c.toNat < 0x80)
    (hcs : ∀ d ∈ cs, d.toNat < 0x80) (s : Sequence) :
    unitsFrom s c cs = (c :: cs).map fun d => [d] := by
  induction cs generalizing c s with
  | nil => rfl
  | cons d rest ih =>
    have hd : d.toNat < 0x80 := hcs d List.mem_cons_self
    have hapart : joined s c d = false := by simp [joined, hc, hd]
    rw [unitsFrom, ih hd fun e he => hcs e (List.mem_cons_of_mem _ he), hapart]
    rfl

/-- The units of an ASCII text are its characters. -/
theorem units_of_ascii {cs : List Char} (h : ∀ c ∈ cs, c.toNat < 0x80) :
    units cs = cs.map fun c => [c] := by
  cases cs with
  | nil => rfl
  | cons c rest =>
    have hrest : ∀ d ∈ rest, d.toNat < 0x80 := fun d hd => h d (List.mem_cons_of_mem _ hd)
    exact unitsFrom_of_ascii (h c List.mem_cons_self) hrest _

end Cluster

namespace ConstantName

/-! ## Words -/

/-- Whether a word ends between a unit and the text behind it. -/
def endsBefore (u : TextUnit) : List TextUnit → Bool
  | [] => false
  | v :: after => !isSeparator v && endsBetween u v after.head?

/-- There is at least one word, if only an empty one. -/
theorem words_ne_nil (us : List TextUnit) : words us ≠ [] := by
  unfold words
  dsimp only
  repeat' split
  all_goals exact List.cons_ne_nil _ _

/-- **Words from left to right**: a separator leaves an empty word, any other unit is a word of its
own or stands in front of the first word behind it. -/
theorem words_cons (u : TextUnit) (rest : List TextUnit) :
    words (u :: rest) =
      if isSeparator u then [] :: words rest
      else if endsBefore u rest then [u] :: words rest
      else (words rest).modifyHead (u :: ·) := by
  cases rest with
  | nil =>
    simp only [words, endsBefore, List.modifyHead_cons, Bool.false_eq_true, if_false]
  | cons v after =>
    -- There is a first word behind the unit, so the branches without one are never taken.
    obtain ⟨first, more, hwords⟩ := List.exists_cons_of_ne_nil (words_ne_nil (v :: after))
    rw [words, hwords]
    by_cases hv : isSeparator v = true
    · simp [endsBefore, hv]
    · simp [endsBefore, hv]

/-- **Cutting into words loses nothing but separators.** -/
theorem flatten_words (us : List TextUnit) :
    (words us).flatten = us.filter fun u => !isSeparator u := by
  induction us with
  | nil => rfl
  | cons u rest ih =>
    obtain ⟨first, more, hwords⟩ := List.exists_cons_of_ne_nil (words_ne_nil rest)
    rw [words_cons, List.filter_cons, ← ih, hwords]
    by_cases hsep : isSeparator u = true
    · simp [hsep]
    · have hkeep : (!isSeparator u) = true := by simpa using hsep
      rw [if_neg hsep, if_pos hkeep]
      split <;> simp

/-- **A word at the end of a text is cut off** if every unit of the text in front of it separates
words or ends one there. -/
theorem exists_words_append {word us : List TextUnit} (hword : words word = [word])
    (hus : us ≠ []) (hends : ∀ u ∈ us, isSeparator u = true ∨ endsBefore u word = true) :
    ∃ front, front ≠ [] ∧ words (us ++ word) = front ++ [word] := by
  induction us with
  | nil => exact absurd rfl hus
  | cons u rest ih =>
    rw [List.cons_append, words_cons]
    cases rest with
    | nil =>
      -- The unit right before the word: this is where the cut is made.
      rw [List.nil_append, hword]
      by_cases hsep : isSeparator u = true
      · exact ⟨[[]], List.cons_ne_nil _ _, by rw [if_pos hsep]; rfl⟩
      · have hend := (hends u List.mem_cons_self).resolve_left hsep
        exact ⟨[[u]], List.cons_ne_nil _ _, by rw [if_neg hsep, if_pos hend]; rfl⟩
    | cons v rest =>
      -- Further up the unit goes to the words in front, of which there is one at least, so that it
      -- never joins the last word.
      obtain ⟨front, hfront, hwords⟩ :=
        ih (List.cons_ne_nil _ _) fun w hw => hends w (List.mem_cons_of_mem _ hw)
      obtain ⟨first, more, rfl⟩ := List.exists_cons_of_ne_nil hfront
      rw [hwords]
      split
      · exact ⟨[] :: first :: more, List.cons_ne_nil _ _, rfl⟩
      · split
        · exact ⟨[u] :: first :: more, List.cons_ne_nil _ _, rfl⟩
        · exact ⟨(u :: first) :: more, List.cons_ne_nil _ _, rfl⟩

/-! ## Characters -/

/-- Whether a character is an ASCII letter, a digit or an underscore. -/
def isNameChar (c : Char) : Bool := c.isAlphanum || c == '_'

/-- Whether a character is a capital of ASCII, a digit or an underscore. -/
def isConstantChar (c : Char) : Bool := c.isUpper || c.isDigit || c == '_'

/-- A text without its underscores. -/
def withoutUnderscores (s : String) : String := String.ofList (s.toList.filter (· != '_'))

/-- The characters of a name are in ASCII. -/
theorem toNat_lt_of_isNameChar {c : Char} (h : isNameChar c = true) : c.toNat < 0x80 := by
  rcases Bool.or_eq_true_iff.mp h with halphanum | hunderscore
  · rcases Bool.or_eq_true_iff.mp halphanum with hletter | hdigit
    · rcases Bool.or_eq_true_iff.mp hletter with hupper | hlower
      · have hle : c.toNat ≤ 'Z'.toNat :=
          UInt32.le_iff_toNat_le.mp (of_decide_eq_true hupper).2
        exact Nat.lt_of_le_of_lt hle (by decide)
      · have hle : c.toNat ≤ 'z'.toNat :=
          UInt32.le_iff_toNat_le.mp (of_decide_eq_true (Bool.and_eq_true_iff.mp hlower).2)
        exact Nat.lt_of_le_of_lt hle (by decide)
    · exact Nat.lt_of_le_of_lt (Char.isDigit_iff_toNat.mp hdigit).2 (by decide)
  · rw [beq_iff_eq.mp hunderscore]
    decide

/-- A property of letters, digits and underscores, checked code point by code point. -/
theorem forall_nameChar {P : Char → Prop}
    (h : ∀ n < 0x80, isNameChar (Char.ofNat n) = true → P (Char.ofNat n)) {c : Char}
    (hc : isNameChar c = true) : P c := by
  have hn := h c.toNat (toNat_lt_of_isNameChar hc)
  rw [Char.ofNat_toNat] at hn
  exact hn hc

section NameChar

variable {c : Char} (h : isNameChar c = true)

include h

/-- Of these characters only the underscore separates words. -/
theorem isSeparator_singleton : isSeparator [c] = (c == '_') :=
  forall_nameChar (P := fun c => isSeparator [c] = (c == '_')) (by decide) h

/-- Each of them ends a word in front of a capital that a lower-case letter follows. -/
theorem isSeparator_or_endsBetween :
    isSeparator [c] = true ∨ endsBetween [c] ['U'] (some ['n']) = true :=
  forall_nameChar (P := fun c => isSeparator [c] = true ∨ endsBetween [c] ['U'] (some ['n']) = true)
    (by decide) h

/-- A character of a name, in upper case, can stand in a constant. -/
theorem isConstantChar_toUpper : isConstantChar c.toUpper = true :=
  forall_nameChar (P := fun c => isConstantChar c.toUpper = true) (by decide) h

/-- Upper case neither makes nor removes underscores. -/
theorem toUpper_bne_underscore : (c.toUpper != '_') = (c != '_') :=
  forall_nameChar (P := fun c => (c.toUpper != '_') = (c != '_')) (by decide) h

theorem ofChars_singleton : Uppercase.ofChars [c] = [c.toUpper] := by
  rw [Uppercase.ofChars, List.flatMap_singleton, Uppercase.ofChar,
    if_pos (toNat_lt_of_isNameChar h)]

end NameChar

/-! ## Texts -/

/-- Underscores between words are all that joining them adds. -/
theorem filter_intercalate (xs : List (List Char)) :
    (['_'].intercalate xs).filter (· != '_') = xs.flatten.filter (· != '_') := by
  induction xs with
  | nil => rfl
  | cons x xs ih =>
    cases xs with
    | nil => rw [List.intercalate_singleton, List.flatten_singleton]
    | cons y ys =>
      rw [List.intercalate_cons_cons, List.flatten_cons, List.filter_append, List.filter_append,
        List.filter_append, ih]
      simp

/-- **The upper snake case of a text**: its words in upper case, with underscores between. -/
theorem toList_upperSnake (text : String) :
    (upperSnake text).toList =
      ['_'].intercalate ((words (Cluster.units text.toList)).map fun w =>
        w.flatMap Uppercase.ofChars) := by
  rw [upperSnake, String.toList_intercalate, List.map_map]
  simp [Function.comp_def]

/-- The last word comes behind an underscore. -/
theorem upperSnake_eq_append {text : String} {front : List (List TextUnit)} {last : List TextUnit}
    (hfront : front ≠ []) (hwords : words (Cluster.units text.toList) = front ++ [last]) :
    ∃ start,
      upperSnake text = start ++ ("_" ++ String.ofList (last.flatMap Uppercase.ofChars)) := by
  rw [upperSnake, hwords, List.map_append, List.map_singleton,
    String.intercalate_append_of_ne_nil (by simpa using hfront) (List.cons_ne_nil _ _),
    String.intercalate_singleton, String.append_assoc]
  exact ⟨_, rfl⟩

/-- The units of a text that separate no words, in capitals, are the characters of the text in
capitals, the underscores apart. -/
theorem flatMap_units {cs : List Char} (h : ∀ c ∈ cs, isNameChar c = true) :
    ((cs.map fun c => [c]).filter fun u => !isSeparator u).flatMap Uppercase.ofChars =
      (cs.map Char.toUpper).filter (· != '_') := by
  induction cs with
  | nil => rfl
  | cons c rest ih =>
    have hc : isNameChar c = true := h c List.mem_cons_self
    have hrest := ih fun d hd => h d (List.mem_cons_of_mem _ hd)
    rw [List.map_cons, List.filter_cons, List.map_cons, List.filter_cons, isSeparator_singleton hc,
      toUpper_bne_underscore hc]
    by_cases hunderscore : c = '_'
    · simpa [hunderscore] using hrest
    · simpa [hunderscore, ofChars_singleton hc] using hrest

/-- **Words in capitals keep the text**, its underscores apart. -/
theorem withoutUnderscores_upperSnake {text : String}
    (h : ∀ c ∈ text.toList, isNameChar c = true) :
    withoutUnderscores (upperSnake text) = withoutUnderscores text.toUpper := by
  have hunits := Cluster.units_of_ascii fun c hc => toNat_lt_of_isNameChar (h c hc)
  -- words split the text without losing anything but separators, and joining them adds underscores
  have hflatten : ∀ ws : List (List TextUnit),
      (ws.map fun w => w.flatMap Uppercase.ofChars).flatten =
        ws.flatten.flatMap Uppercase.ofChars := by
    intro ws
    rw [List.flatMap_def, List.map_flatten, List.flatten_flatten, List.map_map]
    rfl
  apply congrArg String.ofList
  rw [toList_upperSnake, filter_intercalate, hunits, hflatten, flatten_words, flatMap_units h,
    List.filter_filter, String.toUpper, String.toList_map]
  simp

/-! ## Zero constants -/

variable {name : String}

/-- A name with the suffix is still made of characters of names. -/
theorem isNameChar_of_mem_append (h : ∀ c ∈ name.toList, isNameChar c = true) :
    ∀ c ∈ (name ++ "Unspecified").toList, isNameChar c = true := by
  rw [String.toList_append, List.forall_mem_append]
  exact ⟨h, List.all_eq_true.mp (by decide)⟩

/-- **The name of a zero constant ends in a word of its own**, whatever the enum's name ends in. -/
theorem exists_zero_eq_append (hne : name ≠ "") (h : ∀ c ∈ name.toList, isNameChar c = true) :
    ∃ start, zero name = start ++ "_UNSPECIFIED" := by
  have hunits := Cluster.units_of_ascii fun c hc =>
    toNat_lt_of_isNameChar (isNameChar_of_mem_append h c hc)
  have hnonempty : (name.toList.map fun c => [c]) ≠ [] := by simpa using hne
  have hends : ∀ u ∈ name.toList.map fun c => [c],
      isSeparator u = true ∨ endsBefore u ("Unspecified".toList.map fun c => [c]) = true := by
    rw [List.forall_mem_map]
    exact fun c hc => isSeparator_or_endsBetween (h c hc)
  obtain ⟨front, hfront, hwords⟩ := exists_words_append (by decide) hnonempty hends
  rw [← List.map_append, ← String.toList_append, ← hunits] at hwords
  exact upperSnake_eq_append hfront hwords

/-- **Up to underscores the constant is the name and the suffix**, in upper case. -/
theorem withoutUnderscores_zero (h : ∀ c ∈ name.toList, isNameChar c = true) :
    withoutUnderscores (zero name) = withoutUnderscores name.toUpper ++ "UNSPECIFIED" := by
  rw [zero, withoutUnderscores_upperSnake (isNameChar_of_mem_append h)]
  simp only [withoutUnderscores, String.toUpper, String.toList_map, String.toList_append,
    List.map_append, List.filter_append, String.ofList_append]
  rfl

/-- **The name of a zero constant is a constant's name and keeps the name of the enum**: it has
capitals, digits and underscores only, ends in the word `UNSPECIFIED`, and without underscores it
is the enum's name in capitals with that word behind it. -/
theorem zero_wellFormed (name : String) (hne : name ≠ "")
    (h : ∀ c ∈ name.toList, isNameChar c = true) :
    (∀ c ∈ (zero name).toList, isConstantChar c = true) ∧
      (∃ start, zero name = start ++ "_UNSPECIFIED") ∧
      withoutUnderscores (zero name) = withoutUnderscores name.toUpper ++ "UNSPECIFIED" := by
  have hkeeps := withoutUnderscores_zero h
  refine ⟨?_, exists_zero_eq_append hne h, hkeeps⟩
  intro c hc
  by_cases hunderscore : c = '_'
  · rw [hunderscore]
    decide
  · -- Any other character is still there without underscores, where it comes from the enum's name
    -- or from the last word.
    have hmem : c ∈ (withoutUnderscores (zero name)).toList := by
      rw [withoutUnderscores, String.toList_ofList, List.mem_filter]
      exact ⟨hc, by simpa using hunderscore⟩
    rw [hkeeps, String.toList_append, List.mem_append] at hmem
    rcases hmem with hname | hlast
    · rw [withoutUnderscores, String.toList_ofList, String.toUpper, String.toList_map] at hname
      obtain ⟨d, hd, rfl⟩ := List.mem_map.mp (List.mem_of_mem_filter hname)
      exact isConstantChar_toUpper (h d hd)
    · exact List.all_eq_true.mp (by decide) c hlast

/-- A name with an acronym, digits, and two underscores in a row. -/
theorem zero_wellFormed_acronym :
    (∀ c ∈ (zero "IPv6_Kind__2X").toList, isConstantChar c = true) ∧
      (∃ start, zero "IPv6_Kind__2X" = start ++ "_UNSPECIFIED") ∧
      withoutUnderscores (zero "IPv6_Kind__2X") = "IPV6KIND2XUNSPECIFIED" := by
  have hname : ∀ c ∈ "IPv6_Kind__2X".toList, isNameChar c = true :=
    List.all_eq_true.mp (by decide)
  obtain ⟨hchars, hlast, hkeeps⟩ := zero_wellFormed "IPv6_Kind__2X" (by decide) hname
  rw [withoutUnderscores, withoutUnderscores, String.toUpper, String.toList_map] at hkeeps
  exact ⟨hchars, hlast, hkeeps.trans (by decide)⟩

/-- An enum without a name has nothing in front of the last word. -/
example : zero "" = "UNSPECIFIED" ∧ zero "IPv6Kind" = "I_PV_6_KIND_UNSPECIFIED" := by decide

end ConstantName

end ProtoSchema
