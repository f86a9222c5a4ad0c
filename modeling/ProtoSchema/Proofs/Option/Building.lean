/-
Options that cannot be written leave no trace.

While a value is added to a body, the lines of its parts go to bodies of their own, one for each
block around the part. A null may be met at any depth, when some of those bodies already have lines.
None of these lines gets out: a block is added when it is filled or not at all, so a value adds its
whole line or nothing (`addTo_eq`). A list of options adds the lines of the options before the first
one that cannot be written, and stops there (`failing_option_leaves_no_trace`).
-/
import Mathlib.Data.List.Forall2
import ProtoSchema.Option.Building
import ProtoSchema.Proofs.Declaration.Written

set_option autoImplicit false

namespace ProtoSchema

open Outcome
open OptionAssignment (finished)

namespace Building

/-- The body with one more line, if there is one. -/
def ofLine (body : Layout.Body) : Except PrintError Layout.Line → Building
  | .ok line => (body ++ [line], none)
  | .error e => (body, some e)

/-- A fault comes with the body that is left behind. -/
theorem exists_fault_iff {b : Building} : (∃ body e, b = (body, some e)) ↔ b.2 ≠ none := by
  obtain ⟨body, e⟩ := b
  cases e <;> simp

/-- Without its line a body is what it was. -/
theorem eq_of_ofLine_eq_fault {body body' : Layout.Body} {line : Except PrintError Layout.Line}
    {e : PrintError} (h : ofLine body line = (body', some e)) : body' = body := by
  cases line with
  | ok line => cases h
  | error d =>
    cases h
    rfl

/-- A building fails exactly as its line does. -/
theorem ofLine_snd (body : Layout.Body) (line : Except PrintError Layout.Line) :
    (ofLine body line).2 = Outcome.fault? line := by
  cases line <;> rfl

/-- A line and what is added after it are the lines of both, as far as the adding succeeds. -/
theorem finished_ofLine_andThen (body : Layout.Body) (line : Except PrintError Layout.Line)
    {next : Layout.Body → Building} {lines : Except PrintError (List Layout.Line)}
    (h : ∀ body, finished (next body) = (body ++ ·) <$> lines) :
    finished ((ofLine body line).andThen next) = (body ++ ·) <$> (do
      let first ← line
      let others ← lines
      return first :: others) := by
  cases line with
  | error e => rfl
  | ok line =>
    show finished (next (body ++ [line])) = _
    rw [h]
    cases lines with
    | error e => rfl
    | ok lines => exact congrArg Except.ok (List.append_assoc body [line] lines)

/-- A block is added if it was filled, and what was added to it before a fault is dropped. -/
theorem addBlock_eq (body : Layout.Body) (opening closing : String)
    (fill : Layout.Body → Building) :
    addBlock body opening closing fill =
      ofLine body ((fun lines => .block opening lines closing) <$> finished (fill [])) := by
  rw [addBlock]
  obtain ⟨lines, e⟩ := fill []
  cases e <;> rfl

end Building

namespace OptionValue

open Building

mutual

/-- **A value adds its line or nothing.** The induction is on the value; what the parts of a
mapping or a sequence add is only asked for as far as filling succeeds, since the body they add to is
dropped if it does not. -/
theorem addTo_eq (option before after : String) (body : Layout.Body) : ∀ v : OptionValue,
    v.addTo option before after body = ofLine body (v.line option before after)
  | .null | .bool _ | .number _ | .string _ | .bytes _ | .enumLiteral _ => rfl
  | .mapping entries => by
    -- the block is filled from nothing, so what fills it are the lines of the entries
    rw [addTo, addBlock_eq, finished_addEntriesTo, line, bind_pure_comp]
    simp only [List.nil_append, id_map']
  | .sequence items => by
    rw [addTo, addBlock_eq, finished_addItemsTo, line, bind_pure_comp]
    simp only [List.nil_append, id_map']

/-- **Entries added in place** give the lines of the entries, as far as the adding succeeds. -/
theorem finished_addEntriesTo (option : String) (body : Layout.Body) :
    ∀ entries : List (String × OptionValue),
      finished (addEntriesTo option body entries) = (body ++ ·) <$> entryLines option entries
  | [] => congrArg Except.ok (List.append_nil body).symm
  | (key, value) :: rest => by
    rw [addEntriesTo, entryLines, addTo_eq option _ _ body value]
    exact finished_ofLine_andThen body _ fun body => finished_addEntriesTo option body rest

/-- **Items added in place** give the lines of the items, as far as the adding succeeds. -/
theorem finished_addItemsTo (option : String) (body : Layout.Body) :
    ∀ items : List OptionValue,
      finished (addItemsTo option body items) = (body ++ ·) <$> itemLines option items
  | [] => congrArg Except.ok (List.append_nil body).symm
  | value :: rest => by
    rw [addItemsTo, itemLines, addTo_eq option _ _ body value]
    exact finished_ofLine_andThen body _ fun body => finished_addItemsTo option body rest

end

/-- The entry before a null has its line in the body of the block, which then goes with it. -/
example :
    let entries : List (String × OptionValue) := [("a", .bool true), ("b", .null)]
    let fault : PrintError := .unsupportedValue "o" "null"
    addEntriesTo "o" [] entries = ([.plain "a: true,"], some fault) ∧
      (mapping entries).addTo "o" "" "" [.plain "x"] = ([.plain "x"], some fault) := ⟨rfl, rfl⟩

end OptionValue

namespace OptionAssignment

open Building

/-! ## Lists of options -/

/-- The line of an option in a form; only in the short form something stands after it. -/
def lineIn (form : OptionForm) (after : String) (o : OptionAssignment) :
    Except PrintError Layout.Line :=
  match form with
  | .short => o.shortLine after
  | .long => o.longLine

/-- The line of an option fails with the fault of the option in its form. -/
theorem fault?_lineIn (form : OptionForm) (after : String) (o : OptionAssignment) :
    Outcome.fault? (o.lineIn form after) = o.fault? form := by
  cases form with
  | short => exact o.fault?_shortLine after
  | long => exact o.fault?_longLine

/-- **Adds an option that others follow**: in the short form with a comma. -/
def addOneTo (form : OptionForm) (body : Layout.Body) (o : OptionAssignment) : Building :=
  match form with
  | .short => addShortTo body o ","
  | .long => addLongTo body o

/-- Adds options in a form. -/
def addAllTo : OptionForm → Layout.Body → List OptionAssignment → Building
  | .short => addAllShortTo
  | .long => addAllLongTo

theorem addShortTo_eq (body : Layout.Body) (o : OptionAssignment) (after : String) :
    addShortTo body o after = ofLine body (o.shortLine after) := OptionValue.addTo_eq ..

theorem addLongTo_eq (body : Layout.Body) (o : OptionAssignment) :
    addLongTo body o = ofLine body o.longLine := by
  rw [addLongTo, longLine]
  split
  · rfl
  · exact OptionValue.addTo_eq ..

/-- **Adding one option** adds its line or nothing, in both forms. -/
theorem addOneTo_eq (form : OptionForm) (body : Layout.Body) (o : OptionAssignment) :
    addOneTo form body o = ofLine body (o.lineIn form ",") := by
  cases form with
  | short => exact addShortTo_eq body o ","
  | long => exact addLongTo_eq body o

/-- **The step of a list of options**: the first one adds its line, and the others follow. -/
theorem addAllTo_cons (form : OptionForm) (body : Layout.Body) (o : OptionAssignment)
    (rest : List OptionAssignment) :
    addAllTo form body (o :: rest) =
      (ofLine body (o.lineIn form (OptionValue.separator rest))).andThen fun body =>
        addAllTo form body rest := by
  cases form with
  | short => rw [addAllTo, addAllShortTo, addShortTo_eq, lineIn]
  | long => rw [addAllTo, addAllLongTo, addLongTo_eq, lineIn]

/-- Building in place gives what the lines of the options give. -/
theorem addAllShortTo_eq (body : Layout.Body) (os : List OptionAssignment) :
    addAllShortTo body os = addShort body os := by
  induction os generalizing body with
  | nil => rfl
  | cons o rest ih =>
    rw [addAllShortTo, addShortTo_eq, addShort]
    cases o.shortLine (OptionValue.separator rest) with
    | error e => rfl
    | ok line => exact ih (body ++ [line])

/-- Options in long form are added in place as they are written. -/
theorem addAllLongTo_eq (body : Layout.Body) (os : List OptionAssignment) :
    addAllLongTo body os = addLong body os := by
  induction os generalizing body with
  | nil => rfl
  | cons o rest ih =>
    rw [addAllLongTo, addLongTo_eq, addLong]
    cases o.longLine with
    | error e => rfl
    | ok line => exact ih (body ++ [line])

/-- **Adding options fails with the first fault** among them. -/
theorem addAllTo_snd (form : OptionForm) (body : Layout.Body) (os : List OptionAssignment) :
    (addAllTo form body os).2 = os.findSome? (fault? form) := by
  cases form with
  | short => rw [addAllTo, addAllShortTo_eq, fault?_addShort]
  | long => rw [addAllTo, addAllLongTo_eq, fault?_addLong]

/-- **A list of options stops at one of them**, with the lines of those before it. -/
theorem addAllTo_eq_error {form : OptionForm} {os : List OptionAssignment}
    {body body' : Layout.Body} {e : PrintError} (h : addAllTo form body os = (body', some e)) :
    ∃ earlier o later lines, os = earlier ++ o :: later ∧
      List.Forall₂ (fun a line => a.lineIn form "," = .ok line) earlier lines ∧
      o.lineIn form (OptionValue.separator later) = .error e ∧ body' = body ++ lines := by
  induction os generalizing body with
  | nil => cases form <;> cases h
  | cons o rest ih =>
    rw [addAllTo_cons] at h
    cases hline : o.lineIn form (OptionValue.separator rest) with
    | error d =>
      rw [hline] at h
      cases h
      exact ⟨[], o, rest, [], rfl, .nil, hline, (List.append_nil _).symm⟩
    | ok line =>
      rw [hline] at h
      obtain ⟨earlier, a, later, lines, rfl, hearlier, ha, rfl⟩ := ih h
      refine ⟨o :: earlier, a, later, line :: lines, rfl, .cons ?_ hearlier, ha,
        (List.append_assoc body [line] lines)⟩
      -- the adding stopped further on, so something followed and the line has its comma
      have hcomma : OptionValue.separator (earlier ++ a :: later) = "," := by
        rw [OptionValue.separator, if_neg (by simp)]
      rwa [hcomma] at hline

/-- **An option that cannot be written leaves no trace.** Adding a value to a body fails exactly if
it holds a null, at any depth, and then the body is what it was. Adding a list of options fails
exactly if one of them cannot be written; the body is then followed by the whole lines of the options
before the first such one, in the short form each with a comma, and by nothing else. -/
theorem failing_option_leaves_no_trace :
    (∀ (option before after : String) (body : Layout.Body) (v : OptionValue),
      ((∃ body' e, v.addTo option before after body = (body', some e)) ↔ v.hasNull = true) ∧
      ∀ body' e, v.addTo option before after body = (body', some e) → body' = body) ∧
    ∀ (form : OptionForm) (body : Layout.Body) (os : List OptionAssignment),
      ((∃ body' e, addAllTo form body os = (body', some e)) ↔ ∃ o ∈ os, o.Unwritable form) ∧
      ∀ body' e, addAllTo form body os = (body', some e) →
        ∃ earlier o later lines, os = earlier ++ o :: later ∧
          (∀ a ∈ earlier, ¬ a.Unwritable form) ∧ o.Unwritable form ∧
          List.Forall₂ (fun a line => addOneTo form [] a = ([line], none)) earlier lines ∧
          body' = body ++ lines := by
  refine ⟨fun option before after body v => ?_, fun form body os => ⟨?_, ?_⟩⟩
  · rw [OptionValue.addTo_eq]
    refine ⟨?_, fun body' e => eq_of_ofLine_eq_fault⟩
    rw [exists_fault_iff, ofLine_snd, OptionValue.fault?_line, OptionValue.fault?]
    simp
  · rw [exists_fault_iff, addAllTo_snd, Ne, List.findSome?_eq_none_iff]
    simp only [fault?_eq_none, not_forall, not_not, exists_prop]
  · intro body' e h
    obtain ⟨earlier, o, later, lines, hsplit, hlines, ho, hbody⟩ := addAllTo_eq_error h
    have hfault : o.fault? form = some e := by
      rw [← fault?_lineIn form (OptionValue.separator later), ho]
      rfl
    have hunwritable : o.Unwritable form := (fault?_eq_some.mp hfault).1
    -- the options before it have their lines, so they can be written, and by themselves
    have hboth : List.Forall₂
        (fun a line => ¬ a.Unwritable form ∧ addOneTo form [] a = ([line], none)) earlier lines := by
      refine hlines.imp fun a line hline => ⟨?_, ?_⟩
      · rw [← fault?_eq_none, ← fault?_lineIn form ",", hline]
        rfl
      · rw [addOneTo_eq, hline]
        rfl
    obtain ⟨hwritable, hwhole⟩ := (List.forall₂_and_left _ _).mp hboth
    exact ⟨earlier, o, later, lines, hsplit, hwritable, hunwritable, hwhole, hbody⟩

/-- A value with a null two blocks deep, each of which has another part before it. -/
def deepNull : OptionValue :=
  .mapping [("a", .bool true), ("b", .sequence [.bool true, .mapping [("c", .null)]])]

/-- Three options, of which the second cannot be written. -/
def nullBetween : List OptionAssignment := [
  { name := "p", value := .bool true }, { name := "q", value := deepNull },
  { name := "r", value := .bool true }]

/-- Of the three options, the first one is added as a whole and nothing of the second one. -/
theorem failing_option_leaves_no_trace_nullBetween :
    (∃ e, deepNull.addTo "q" "q = " "," [.plain "x"] = ([.plain "x"], some e)) ∧
    (∃ e, addAllShortTo [.plain "x"] nullBetween =
      ([.plain "x", .plain "p = true,"], some e)) ∧
    ∃ e, addAllLongTo [.plain "x"] nullBetween =
      ([.plain "x", .plain "option p = true;"], some e) := by
  obtain ⟨hvalue, hlist⟩ := failing_option_leaves_no_trace
  have hfirst : ∀ form line, addOneTo form [] { name := "p", value := .bool true } = ([line], none) →
      ∃ e, addAllTo form [.plain "x"] nullBetween = ([.plain "x", line], some e) := by
    intro form line hline
    obtain ⟨hfails, hstops⟩ := hlist form [.plain "x"] nullBetween
    have hnull : ∃ o ∈ nullBetween, o.Unwritable form :=
      ⟨{ name := "q", value := deepNull }, by simp [nullBetween], .inr rfl⟩
    obtain ⟨body', e, hend⟩ := hfails.mpr hnull
    obtain ⟨earlier, o, later, lines, hsplit, hearlier, ho, hlines, rfl⟩ := hstops body' e hend
    rcases earlier with - | ⟨a, - | ⟨b, earlier⟩⟩
    · -- the first option can be written
      obtain ⟨rfl, -⟩ := List.cons.inj hsplit
      rcases ho with ⟨-, hpath⟩ | hnull
      · exact absurd rfl hpath
      · cases hnull
    · obtain ⟨rfl, -⟩ := List.cons.inj hsplit
      obtain ⟨line', others, hline', hothers, rfl⟩ := List.forall₂_cons_left_iff.mp hlines
      rw [List.forall₂_nil_left_iff.mp hothers] at hend
      rw [hline] at hline'
      cases hline'
      exact ⟨e, hend⟩
    · -- the second one cannot
      obtain ⟨-, hrest⟩ := List.cons.inj hsplit
      obtain ⟨rfl, -⟩ := List.cons.inj hrest
      exact absurd (.inr rfl) (hearlier { name := "q", value := deepNull } (by simp))
  refine ⟨?_, hfirst .short _ rfl, hfirst .long _ rfl⟩
  obtain ⟨hfails, hkept⟩ := hvalue "q" "q = " "," [.plain "x"] deepNull
  obtain ⟨body', e, hend⟩ := hfails.mpr rfl
  rw [hkept body' e hend] at hend
  exact ⟨e, hend⟩

end OptionAssignment

end ProtoSchema
