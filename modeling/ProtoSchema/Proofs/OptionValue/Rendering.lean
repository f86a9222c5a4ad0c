/-
Written option values can be told apart.

However a value is laid out, its text stands between the texts before and after it and strips
to the value's bare text (`text_line`). A bare text is read in one way, so two values have the
same text only if they are the same up to strings and their UTF-8 bytes; and such values are
written alike, line by line (`line_stringsAsBytes`).
-/
import ProtoSchema.Option.Printer
import ProtoSchema.Proofs.Declaration.Written
import ProtoSchema.Proofs.Layout.Strip
import ProtoSchema.Proofs.OptionValue.BareText

set_option autoImplicit false

namespace ProtoSchema

namespace OptionValue

open Layout (StripsTo LineStripsTo LinesStripTo)
open Outcome

/-! ## A value on its line -/

/-- Between entries a comma is left, and none behind the last. -/
theorem stripsTo_separator {α : Type} (rest : List α) :
    StripsTo (separator rest).toList (comma rest) := by
  cases rest with
  | nil => exact .nil
  | cons a rest =>
    have hcomma : StripsTo ",".toList [','] := StripsTo.mark (by decide)
    exact hcomma

/-- Words and literals are written on a line of their own. -/
theorem line_of_scalar {v : OptionValue} (h : v.Legible)
    (hscalar : v.reading = .word ∨ v.reading = .literal) (option before after : String) :
    ∃ text, v.line option before after = .ok (.plain text) ∧
      text.toList = before.toList ++ (v.bare ++ after.toList) := by
  cases v with
  | null => exact h.elim
  | bool b =>
    refine ⟨_, rfl, ?_⟩
    cases b <;> simp only [String.toList_append, List.append_assoc] <;> rfl
  | mapping es => simp [reading] at hscalar
  | sequence is => simp [reading] at hscalar
  | _ =>
    refine ⟨_, rfl, ?_⟩
    simp only [String.toList_append, List.append_assoc, bare]

/-- **A line that writes a value** between the texts before and after it: wherever the line
stands, the text between the two strips to the bare text of the value. -/
def IsWritten (l : Layout.Line) (v : OptionValue) (before after : String) : Prop :=
  ∀ depth indent, ∃ core,
    (l.text depth indent).toList =
      (Layout.blanks indent).toList ++ (before.toList ++ (core ++ after.toList)) ∧
    StripsTo core v.bare

/-- A word or a literal is written between the texts before and after it. -/
theorem text_line_of_scalar {v : OptionValue} (h : v.Legible)
    (hscalar : v.reading = .word ∨ v.reading = .literal) {option before after : String}
    {l : Layout.Line} (hl : v.line option before after = .ok l) : IsWritten l v before after := by
  intro depth indent
  obtain ⟨text, hline, htext⟩ := line_of_scalar h hscalar option before after
  rw [hline] at hl
  cases hl
  obtain ⟨c, cs, hbare, -⟩ := head_bare h
  have hne : ¬ text.isEmpty = true := by
    rw [String.isEmpty_iff, ← String.toList_eq_nil_iff, htext, hbare]
    simp
  refine ⟨v.bare, ?_, ?_⟩
  · rw [Layout.Line.text, if_neg hne, String.toList_append, htext]
  · rcases hscalar with hword | hliteral
    · exact .word (isWord_bare h hword)
    · obtain ⟨bs, -, hbare⟩ := bare_of_literal hliteral
      rw [hbare]
      exact .literal (Literal.escaped_body bs)

/-- The line of an element strips to its name, its value and a comma if more follows. -/
theorem IsWritten.stripsTo {l : Layout.Line} {v : OptionValue} {before : String} {x : List Char}
    {α : Type} {rest : List α} (h : IsWritten l v before (separator rest))
    (hbefore : StripsTo before.toList x) : LineStripsTo l (x ++ (v.bare ++ comma rest)) := by
  intro depth indent
  obtain ⟨core, htext, hcore⟩ := h depth indent
  rw [htext]
  exact (StripsTo.blanks indent).append (hbefore.append (hcore.append (stripsTo_separator rest)))

mutual

/-- **A value is written as its bare text**, whatever the layout. -/
theorem text_line : ∀ {v : OptionValue}, v.Legible → ∀ {option before after : String}
    {l : Layout.Line}, v.line option before after = .ok l → IsWritten l v before after
  | .null, hv, _, _, _, _, _ => hv.elim
  | .bool _, hv, _, _, _, _, hl | .number _, hv, _, _, _, _, hl
  | .enumLiteral _, hv, _, _, _, _, hl =>
    text_line_of_scalar hv (.inl rfl) hl
  | .string _, hv, _, _, _, _, hl | .bytes _, hv, _, _, _, _, hl =>
    text_line_of_scalar hv (.inr rfl) hl
  | .mapping es, hv, option, before, after, l, hl => by
    intro depth indent
    obtain ⟨lines, hlines, hl⟩ := bind_eq_ok.mp hl
    obtain rfl := pure_eq_ok.mp hl
    -- the braces stay, and the block's layout between them is stripped
    have hopening : StripsTo "\x7b".toList ['\x7b'] := .mark (by decide)
    have hclosing : StripsTo "\x7d".toList ['\x7d'] := .mark (by decide)
    exact Layout.text_block hopening (text_entryLines hv hlines) hclosing before after depth indent
  | .sequence is, hv, option, before, after, l, hl => by
    intro depth indent
    obtain ⟨lines, hlines, hl⟩ := bind_eq_ok.mp hl
    obtain rfl := pure_eq_ok.mp hl
    have hopening : StripsTo "[".toList ['['] := .mark (by decide)
    have hclosing : StripsTo "]".toList [']'] := .mark (by decide)
    exact Layout.text_block hopening (text_itemLines hv hlines) hclosing before after depth indent

/-- The lines of entries strip to their bare texts, with commas between. -/
theorem text_entryLines : ∀ {es : List (String × OptionValue)}, LegibleEntries es →
    ∀ {option : String} {lines : List Layout.Line}, entryLines option es = .ok lines →
    LinesStripTo lines (bareEntries es)
  | [], _, _, lines, h => by
    cases h
    exact Layout.linesStripTo_nil
  | (key, v) :: es, ⟨hkey, hv, hes⟩, option, lines, h => by
    obtain ⟨line, hline, h⟩ := bind_eq_ok.mp h
    obtain ⟨others, hothers, h⟩ := bind_eq_ok.mp h
    obtain rfl := pure_eq_ok.mp h
    have hname : StripsTo (key ++ ": ").toList (key.toList ++ [':']) := by
      rw [String.toList_append]
      have hkey : StripsTo key.toList key.toList := .word (isWord_of_isIdentifier hkey)
      have hcolon : StripsTo [':'] [':'] := StripsTo.mark (by decide)
      have hblank : StripsTo [' '] [] := StripsTo.white (.inl rfl)
      exact hkey.append (hcolon.append hblank)
    have h := ((text_line hv hline).stripsTo hname).cons (text_entryLines hes hothers)
    simpa [bareEntries] using h

/-- The lines of items strip to their bare texts, with commas between. -/
theorem text_itemLines : ∀ {is : List OptionValue}, LegibleItems is →
    ∀ {option : String} {lines : List Layout.Line}, itemLines option is = .ok lines →
    LinesStripTo lines (bareItems is)
  | [], _, _, lines, h => by
    cases h
    exact Layout.linesStripTo_nil
  | v :: is, ⟨hv, his⟩, option, lines, h => by
    obtain ⟨line, hline, h⟩ := bind_eq_ok.mp h
    obtain ⟨others, hothers, h⟩ := bind_eq_ok.mp h
    obtain rfl := pure_eq_ok.mp h
    have h := ((text_line hv hline).stripsTo .nil).cons (text_itemLines his hothers)
    simpa [bareItems] using h

end

/-! ## Telling values apart by their texts -/

mutual

/-- A string is written like its bytes. -/
theorem line_stringsAsBytes : ∀ (v : OptionValue) (option before after : String),
    v.stringsAsBytes.line option before after = v.line option before after
  | .null, _, _, _ | .bool _, _, _, _ | .number _, _, _, _ | .bytes _, _, _, _
  | .enumLiteral _, _, _, _ => rfl
  | .string s, option, before, after => by
    rw [stringsAsBytes, line, line, Literal.ofBytes_bytes]
  | .mapping es, option, before, after => by
    rw [stringsAsBytes, line, line, entryLines_asBytes]
  | .sequence is, option, before, after => by
    rw [stringsAsBytes, line, line, itemLines_asBytes]

/-- Entries with bytes in place of strings are written in the same lines. -/
theorem entryLines_asBytes : ∀ (es : List (String × OptionValue)) (option : String),
    entryLines option (entriesAsBytes es) = entryLines option es
  | [], _ => rfl
  | (key, v) :: es, option => by
    have hseparator : separator (entriesAsBytes es) = separator es := by cases es <;> rfl
    rw [entriesAsBytes, entryLines, entryLines, hseparator, line_stringsAsBytes,
      entryLines_asBytes es]

/-- Items with bytes in place of strings are written in the same lines. -/
theorem itemLines_asBytes : ∀ (is : List OptionValue) (option : String),
    itemLines option (itemsAsBytes is) = itemLines option is
  | [], _ => rfl
  | v :: is, option => by
    have hseparator : separator (itemsAsBytes is) = separator is := by cases is <;> rfl
    rw [itemsAsBytes, itemLines, itemLines, hseparator, line_stringsAsBytes, itemLines_asBytes is]

end

mutual

/-- A legible value has no null in it. -/
theorem Legible.hasNull : ∀ {v : OptionValue}, v.Legible → v.hasNull = false
  | .null, h => h.elim
  | .bool _, _ | .number _, _ | .string _, _ | .bytes _, _ | .enumLiteral _, _ => rfl
  | .mapping _, h => LegibleEntries.entriesHaveNull h
  | .sequence _, h => LegibleItems.itemsHaveNull h

theorem LegibleEntries.entriesHaveNull : ∀ {es : List (String × OptionValue)},
    LegibleEntries es → OptionValue.entriesHaveNull es = false
  | [], _ => rfl
  | (_, _) :: _, ⟨_, hv, hes⟩ => by
    rw [OptionValue.entriesHaveNull, hv.hasNull, LegibleEntries.entriesHaveNull hes, Bool.or_false]

theorem LegibleItems.itemsHaveNull : ∀ {is : List OptionValue},
    LegibleItems is → OptionValue.itemsHaveNull is = false
  | [], _ => rfl
  | _ :: _, ⟨hv, his⟩ => by
    rw [OptionValue.itemsHaveNull, hv.hasNull, LegibleItems.itemsHaveNull his, Bool.or_false]

end

/-- **A legible value can be written.** -/
theorem Legible.exists_line {v : OptionValue} (h : v.Legible) (option before after : String) :
    ∃ l, v.line option before after = .ok l := by
  rw [← Outcome.fault?_eq_none, fault?_line, fault?, h.hasNull]
  rfl

/-- **The text of a value alone on a body**, between the texts before and after it. -/
def rendered (option before after : String) (v : OptionValue) : Except PrintError String :=
  (fun l => Layout.render [l]) <$> v.line option before after

/-- Every legible value has a text, and between the texts before and after it stands what strips
to the bare text. -/
theorem Legible.rendered_eq {v : OptionValue} (h : v.Legible) (option before after : String) :
    ∃ s core, v.rendered option before after = .ok s ∧
      s.toList = before.toList ++ (core ++ after.toList) ∧ Layout.strip core = v.bare := by
  obtain ⟨l, hl⟩ := h.exists_line option before after
  obtain ⟨core, htext, hcore⟩ := text_line h hl 0 0
  refine ⟨Layout.render [l], core, ?_, ?_, ?_⟩
  · rw [rendered, hl]
    rfl
  · simp [Layout.render, Layout.expandedText, htext, Layout.blanks, Layout.indentStep]
  · simpa [Layout.strip, Layout.stripFrom] using hcore []

/-- **The text of a value determines it**, up to strings and their UTF-8 bytes, whatever stands
before and after it. -/
theorem rendered_eq_iff {v w : OptionValue} (hv : v.Legible) (hw : w.Legible)
    (hnumbers : ToldApart v.numbers w.numbers) (option before after : String) :
    ∃ s t, v.rendered option before after = .ok s ∧ w.rendered option before after = .ok t ∧
      (s = t ↔ v.stringsAsBytes = w.stringsAsBytes) := by
  obtain ⟨s, core, hs, hstext, hscore⟩ := hv.rendered_eq option before after
  obtain ⟨t, core', ht, httext, htcore⟩ := hw.rendered_eq option before after
  refine ⟨s, t, hs, ht, ?_, ?_⟩
  · -- what stands between the common texts is the same, hence so is what it strips to
    rintro rfl
    rw [hstext] at httext
    have hcore : core = core' := List.append_cancel_right (List.append_cancel_left httext)
    have hbare : v.bare = w.bare := by rw [← hscore, ← htcore, hcore]
    have hends : EndsWord [] := fun _ h => nomatch h
    exact (bare_append_inj v hv hw hnumbers hends hends (congrArg (· ++ []) hbare)).1
  · intro h
    have hline : v.line option before after = w.line option before after := by
      rw [← line_stringsAsBytes v, h, line_stringsAsBytes w]
    rw [rendered, hline, ← rendered, ht] at hs
    exact (Except.ok.inj hs).symm

/-- The number `1.0`. -/
def floatOne : Json.Number := .float ⟨false, 4503599627370496, -52⟩

/-- A value with a name and a list of sizes. -/
def tagged (name : OptionValue) (size : Json.Number) : OptionValue :=
  .mapping [("name", name), ("sizes", .sequence [.number size, .enumLiteral "LARGE", .bool true])]

/-- A name is written alike as a string and as its bytes, but the numbers `1.0` and `1` are
not. -/
theorem rendered_tagged :
    (tagged (.string "\x7dé") floatOne).rendered "o" "option o = " ";" =
      (tagged (.bytes [0x7D, 0xC3, 0xA9]) floatOne).rendered "o" "option o = " ";" ∧
    (tagged (.string "\x7dé") floatOne).rendered "o" "option o = " ";" ≠
      (tagged (.string "\x7dé") (.int 1)).rendered "o" "option o = " ";" := by
  have hlegible : ∀ name size, Legible name → (tagged name size).Legible := by
    intro name size hname
    exact ⟨by decide, hname, by decide, ⟨trivial, ⟨by decide, by decide, by decide⟩, trivial,
      trivial⟩, trivial⟩
  have hsame : ToldApart [floatOne] [floatOne] := by
    unfold ToldApart
    decide +kernel
  have hother : ToldApart [floatOne] [.int 1] := by
    unfold ToldApart
    decide +kernel
  obtain ⟨s, t, hs, ht, heq⟩ := rendered_eq_iff (hlegible (.string "\x7dé") _ trivial)
    (hlegible (.bytes [0x7D, 0xC3, 0xA9]) _ trivial) hsame "o" "option o = " ";"
  obtain ⟨s', t', hs', ht', hne⟩ := rendered_eq_iff (hlegible (.string "\x7dé") _ trivial)
    (hlegible (.string "\x7dé") _ trivial) hother "o" "option o = " ";"
  refine ⟨?_, ?_⟩
  · rw [hs, ht, heq.mpr rfl]
  · rw [hs', ht']
    intro h
    have hvalues := hne.mp (Except.ok.inj h)
    simp [tagged, floatOne, stringsAsBytes, entriesAsBytes, itemsAsBytes] at hvalues

end OptionValue

end ProtoSchema
