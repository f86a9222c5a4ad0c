/-
The options that a file writes, and the first that cannot be written.

A file writes options in two forms: in the long form those of the file, of blocks and of
methods, in the short form those of fields and enum constants. Writing visits them in document
order, the options of a declaration before the declarations in its block (`written`); these are
the options of the declarations in pre-order (`preorder`). It fails exactly if some option has no
written form (`Unwritable`), and with the fault of the first such option: a path in the long form,
or else a null anywhere in its value.
-/
import ProtoSchema.Declaration.Printer
import ProtoSchema.Proofs.OptionValue.Nulls
import ProtoSchema.Proofs.Outcome

set_option autoImplicit false

namespace ProtoSchema

open Outcome

/-! ## One option -/

namespace OptionValue

/-- Why a value cannot be written, if it cannot. -/
def fault? (option : String) (v : OptionValue) : Option PrintError :=
  if v.hasNull then some (.unsupportedValue option (kindName .null)) else none

/-- The first of two values that cannot be written is that of both. -/
theorem or_fault? (option : String) (a b : Bool) :
    (if a then some (PrintError.unsupportedValue option (kindName .null)) else none).or
      (if b then some (.unsupportedValue option (kindName .null)) else none) =
    if a || b then some (.unsupportedValue option (kindName .null)) else none := by
  cases a <;> cases b <;> rfl

mutual

/-- **A value is written unless it holds a null.** -/
theorem fault?_line (option before after : String) : ∀ v : OptionValue,
    Outcome.fault? (v.line option before after) = v.fault? option
  | .null | .bool _ | .number _ | .string _ | .bytes _ | .enumLiteral _ => rfl
  | .mapping entries => by
    rw [line, fault?_bind _ (fun _ => fault?_pure _), Option.or_none, fault?_entryLines]
    rfl
  | .sequence items => by
    rw [line, fault?_bind _ (fun _ => fault?_pure _), Option.or_none, fault?_itemLines]
    rfl

/-- Entries cannot be written if there is a null in one of them, at any depth. -/
theorem fault?_entryLines (option : String) : ∀ entries : List (String × OptionValue),
    Outcome.fault? (entryLines option entries) =
      if entriesHaveNull entries then some (.unsupportedValue option (kindName .null)) else none
  | [] => rfl
  | (key, v) :: rest => by
    rw [entryLines, fault?_bind _ (fun _ => fault?_bind _ fun _ => fault?_pure _), Option.or_none,
      fault?_line option _ _ v, fault?_entryLines option rest, OptionValue.fault?, or_fault?,
      entriesHaveNull]

/-- Nor can items. -/
theorem fault?_itemLines (option : String) : ∀ items : List OptionValue,
    Outcome.fault? (itemLines option items) =
      if itemsHaveNull items then some (.unsupportedValue option (kindName .null)) else none
  | [] => rfl
  | v :: rest => by
    rw [itemLines, fault?_bind _ (fun _ => fault?_bind _ fun _ => fault?_pure _), Option.or_none,
      fault?_line option _ _ v, fault?_itemLines option rest, OptionValue.fault?, or_fault?,
      itemsHaveNull]

end

end OptionValue

/-- **The two forms of options.** -/
inductive OptionForm where
  /-- A statement of its own. -/
  | long
  /-- An item of a bracketed list. -/
  | short
deriving DecidableEq, Repr

namespace OptionAssignment

/-- **Why an option cannot be written** in a form, if it cannot. -/
def fault? (form : OptionForm) (o : OptionAssignment) : Option PrintError :=
  if form = .long ∧ o.path.isEmpty = false then some (.pathOnLongOption o.name)
  else o.value.fault? o.name

/-- In both forms an option without a path fails only at its value. -/
theorem fault?_of_path_eq_empty {o : OptionAssignment} (h : o.path = "") (form : OptionForm) :
    o.fault? form = o.value.fault? o.name := by
  rw [fault?, if_neg]
  rw [h]
  rintro ⟨-, hpath⟩
  cases hpath

/-- **An option without a written form**: the long form has no place for a path, and neither form
has one for a null. -/
def Unwritable (form : OptionForm) (o : OptionAssignment) : Prop :=
  (form = .long ∧ o.path ≠ "") ∨ o.value.hasNull = true

/-- **The error of an option that cannot be written**: a path in the long form comes before a null.
-/
theorem fault?_eq_some {form : OptionForm} {o : OptionAssignment} {e : PrintError} :
    o.fault? form = some e ↔
      o.Unwritable form ∧ e = if form = .long ∧ o.path ≠ "" then .pathOnLongOption o.name
        else .unsupportedValue o.name "null" := by
  have hpath : (form = .long ∧ o.path.isEmpty = false) ↔ form = .long ∧ o.path ≠ "" := by
    rw [← Bool.not_eq_true, String.isEmpty_iff]
  rw [fault?, Unwritable, OptionValue.fault?]
  by_cases hlong : form = .long ∧ o.path ≠ ""
  · -- the path is reported, whatever the value is
    rw [if_pos (hpath.mpr hlong), if_pos hlong, Option.some.injEq, eq_comm]
    exact (and_iff_right (.inl hlong)).symm
  · rw [if_neg (mt hpath.mp hlong), if_neg hlong, or_iff_right hlong,
      Option.ite_none_right_eq_some, Option.some.injEq, eq_comm (b := e)]
    rfl

/-- An option has no error exactly if it can be written. -/
theorem fault?_eq_none {form : OptionForm} {o : OptionAssignment} :
    o.fault? form = none ↔ ¬ o.Unwritable form := by
  rw [Option.eq_none_iff_forall_ne_some]
  simp only [ne_eq, fault?_eq_some, not_and]
  exact ⟨fun h hunwritable => h _ hunwritable rfl, fun h _ hunwritable => absurd hunwritable h⟩

/-- What follows an option in the short form does not make it fail. -/
theorem fault?_shortLine (o : OptionAssignment) (after : String) :
    Outcome.fault? (o.shortLine after) = o.fault? .short := by
  rw [shortLine, OptionValue.fault?_line, fault?, if_neg]
  simp

/-- The line of an option in the long form fails as the option does. -/
theorem fault?_longLine (o : OptionAssignment) :
    Outcome.fault? o.longLine = o.fault? .long := by
  rw [longLine, fault?]
  -- the path is tested before the value is looked at
  cases hpath : o.path.isEmpty with
  | true =>
    simp only [Bool.not_true, Bool.false_eq_true, if_false, reduceCtorEq, and_false]
    exact OptionValue.fault?_line o.name _ _ o.value
  | false => rfl

theorem fault?_finished (r : Layout.Body × Option PrintError) :
    Outcome.fault? (finished r) = r.2 := by
  obtain ⟨body, e⟩ := r
  cases e <;> rfl

/-- Adding options one by one stops at the first that cannot be written. -/
theorem fault?_addShort (os : List OptionAssignment) (body : Layout.Body) :
    (addShort body os).2 = os.findSome? (fault? .short) := by
  induction os generalizing body with
  | nil => rfl
  | cons o rest ih =>
    have hline := fault?_shortLine o (OptionValue.separator rest)
    rw [addShort, List.findSome?_cons, ← hline]
    cases o.shortLine (OptionValue.separator rest) with
    | ok line => exact ih (body ++ [line])
    | error e => rfl

/-- Options in the long form fail at the first one that does, whatever is in the body already. -/
theorem fault?_addLong (os : List OptionAssignment) (body : Layout.Body) :
    (addLong body os).2 = os.findSome? (fault? .long) := by
  induction os generalizing body with
  | nil => rfl
  | cons o rest ih =>
    -- a line that cannot be written ends the list, and its fault is the result
    have hline := fault?_longLine o
    rw [addLong, List.findSome?_cons, ← hline]
    cases o.longLine with
    | ok line => exact ih (body ++ [line])
    | error e => rfl

/-- **The lines of a list of options fail at its first failing option**, in the short form. -/
theorem fault?_shortLines (os : List OptionAssignment) :
    Outcome.fault? (shortLines os) = os.findSome? (fault? .short) := by
  rw [shortLines, fault?_finished, fault?_addShort]

/-- The same in the long form. -/
theorem fault?_longLines (os : List OptionAssignment) :
    Outcome.fault? (longLines os) = os.findSome? (fault? .long) := by
  rw [longLines, fault?_finished, fault?_addLong]

end OptionAssignment

/-! ## Headings -/

namespace Heading

open OptionAssignment (fault?)

/-- Without options there is nothing to fail, so a special case for no options does not show
in the fault. -/
theorem fault?_unless_isEmpty {α β : Type} {os : List OptionAssignment} {form : OptionForm}
    {x : Except PrintError α} (h : Outcome.fault? x = os.findSome? (fault? form)) (b : β)
    (f : α → β) :
    Outcome.fault? (if os.isEmpty then .ok b else f <$> x) = os.findSome? (fault? form) := by
  cases hempty : os.isEmpty with
  | true =>
    rw [List.isEmpty_iff.mp hempty]
    rfl
  | false =>
    simp only [Bool.false_eq_true, if_false]
    rw [fault?_map, h]

/-- The options of a block are written in the long form. -/
theorem fault?_optionLines (head : Heading) :
    Outcome.fault? head.optionLines = head.options.findSome? (fault? .long) :=
  fault?_unless_isEmpty (OptionAssignment.fault?_longLines head.options) _ _

/-- Those of a statement are written in the short form. -/
theorem fault?_statementLine (head : Heading) (statement : String) :
    Outcome.fault? (head.statementLine statement) = head.options.findSome? (fault? .short) :=
  fault?_unless_isEmpty (OptionAssignment.fault?_shortLines head.options) _ _

/-- Those of a method are written in the long form again. -/
theorem fault?_methodLine (head : Heading) (types : MethodTypes) :
    Outcome.fault? (head.methodLine types) = head.options.findSome? (fault? .long) :=
  fault?_unless_isEmpty (OptionAssignment.fault?_longLines head.options) _ _

/-- The options of a heading in one form. -/
def written (form : OptionForm) (head : Heading) : List (OptionForm × OptionAssignment) :=
  head.options.map fun o => (form, o)

/-- A heading writes its own options, all in one form. -/
theorem mem_written {head : Heading} {form other : OptionForm} {o : OptionAssignment} :
    (other, o) ∈ head.written form ↔ other = form ∧ o ∈ head.options := by
  rw [written, List.mem_map]
  constructor
  · rintro ⟨p, hp, heq⟩
    cases heq
    exact ⟨rfl, hp⟩
  · rintro ⟨rfl, ho⟩
    exact ⟨o, ho, rfl⟩

end Heading

/-! ## Declarations -/

namespace Declaration

mutual

/-- **The options that a declaration writes**, with their forms, in document order. -/
def written : Declaration → List (OptionForm × OptionAssignment)
  | .message head children _ | .enum head children _ | .extension head children
  | .oneof head children | .service head children => head.written .long ++ writtenAll children
  | .field head _ _ _ | .enumConstant head _ => head.written .short
  | .method head _ => head.written .long

/-- The options that several declarations write. -/
def writtenAll : List Declaration → List (OptionForm × OptionAssignment)
  | [] => []
  | d :: rest => d.written ++ writtenAll rest

end

theorem writtenAll_append (ds es : List Declaration) :
    writtenAll (ds ++ es) = writtenAll ds ++ writtenAll es := by
  induction ds with
  | nil => rfl
  | cons d ds ih => rw [List.cons_append, writtenAll, ih, writtenAll, List.append_assoc]

/-- The form in which a declaration writes its options. -/
def form : Declaration → OptionForm
  | .field _ _ _ _ | .enumConstant _ _ => .short
  | _ => .long

mutual

/-- **A declaration and those in its block**, at any depth, each before those in its own. -/
def preorder : Declaration → List Declaration
  | .message head children reserved => .message head children reserved :: preorderAll children
  | .enum head children reserved => .enum head children reserved :: preorderAll children
  | .extension head children => .extension head children :: preorderAll children
  | .oneof head children => .oneof head children :: preorderAll children
  | .service head children => .service head children :: preorderAll children
  | .field head number type label => [.field head number type label]
  | .enumConstant head number => [.enumConstant head number]
  | .method head types => [.method head types]

/-- Several declarations and those in their blocks. -/
def preorderAll : List Declaration → List Declaration
  | [] => []
  | d :: rest => d.preorder ++ preorderAll rest

end

/-- A declaration comes before those inside it. -/
theorem preorder_eq_cons (d : Declaration) : d.preorder = d :: preorderAll d.children := by
  cases d <;> rfl

theorem preorderAll_singleton (d : Declaration) :
    preorderAll [d] = d :: preorderAll d.children := by
  rw [preorderAll, preorderAll, List.append_nil, preorder_eq_cons]

theorem preorderAll_append (ds es : List Declaration) :
    preorderAll (ds ++ es) = preorderAll ds ++ preorderAll es := by
  induction ds with
  | nil => rfl
  | cons d ds ih => rw [List.cons_append, preorderAll, ih, preorderAll, List.append_assoc]

mutual

/-- The options of a declaration come before those in its block. -/
theorem written_eq_flatMap : ∀ d : Declaration,
    d.written = d.preorder.flatMap fun d => d.head.written d.form
  | .message _ children _ | .enum _ children _ | .extension _ children | .oneof _ children
  | .service _ children => by
    rw [written, preorder, List.flatMap_cons, writtenAll_eq_flatMap children]
    rfl
  | .field _ _ _ _ | .enumConstant _ _ | .method _ _ => by
    rw [written, preorder, List.flatMap_singleton]
    rfl

/-- **Options are written in preorder**, each declaration's own before those inside it. -/
theorem writtenAll_eq_flatMap : ∀ ds : List Declaration,
    writtenAll ds = (preorderAll ds).flatMap fun d => d.head.written d.form
  | [] => rfl
  | d :: ds => by
    rw [writtenAll, preorderAll, List.flatMap_append, written_eq_flatMap d,
      writtenAll_eq_flatMap ds]

end

/-- The fault of the first option in a list that cannot be written. -/
def firstFault? (ws : List (OptionForm × OptionAssignment)) : Option PrintError :=
  ws.findSome? fun w => w.2.fault? w.1

/-- Of two lists the first one's fault comes first. -/
theorem firstFault?_append (ws vs : List (OptionForm × OptionAssignment)) :
    firstFault? (ws ++ vs) = (firstFault? ws).or (firstFault? vs) := List.findSome?_append

theorem firstFault?_written (form : OptionForm) (head : Heading) :
    firstFault? (head.written form) = head.options.findSome? (OptionAssignment.fault? form) := by
  rw [firstFault?, Heading.written, List.findSome?_map]
  rfl

mutual

/-- **A declaration is written unless one of its options cannot be**, and the first of those
gives the fault. -/
theorem fault?_lines : ∀ (separate : Bool) (d : Declaration),
    Outcome.fault? (d.lines separate) = firstFault? d.written
  | _, .message head children _ | _, .enum head children _ | _, .extension head children
  | _, .oneof head children | _, .service head children => by
    rw [lines, fault?_bind _ (fun _ => fault?_bind _ fun _ => fault?_pure _), Option.or_none,
      head.fault?_optionLines, fault?_childLines true children, written, firstFault?_append,
      firstFault?_written]
  | _, .field head _ _ _ | _, .enumConstant head _ => by
    rw [lines, fault?_bind _ (fun _ => fault?_pure _), Option.or_none, head.fault?_statementLine,
      written, firstFault?_written]
  | _, .method head types => by
    rw [lines, fault?_bind _ (fun _ => fault?_pure _), Option.or_none, head.fault?_methodLine,
      written, firstFault?_written]

/-- **The lines of declarations fail at the first option in document order** that cannot be written;
where empty lines go between them does not matter. -/
theorem fault?_childLines : ∀ (first : Bool) (ds : List Declaration),
    Outcome.fault? (childLines first ds) = firstFault? (writtenAll ds)
  | _, [] => rfl
  | first, d :: rest => by
    rw [childLines, fault?_bind _ (fun _ => fault?_bind _ fun _ => fault?_pure _), Option.or_none,
      fault?_lines _ d, fault?_childLines false rest, writtenAll, firstFault?_append]

end

/-- The same at the top of a file. -/
theorem fault?_topLines (first : Bool) (ds : List Declaration) :
    Outcome.fault? (topLines first ds) = firstFault? (writtenAll ds) := by
  induction ds generalizing first with
  | nil => rfl
  | cons d rest ih =>
    rw [topLines, fault?_bind _ (fun _ => fault?_bind _ fun _ => fault?_pure _), Option.or_none,
      fault?_lines false d, ih false, writtenAll, firstFault?_append]

end Declaration

/-! ## Files -/

namespace ProtoFile

/-- **The options that a file writes**, with their forms, in document order. -/
def written (f : ProtoFile) : List (OptionForm × OptionAssignment) :=
  Heading.written .long { options := f.options } ++ Declaration.writtenAll f.declarations

/-- **A file is written unless one of its options cannot be**, and the first of those gives the
fault. -/
theorem fault?_render (f : ProtoFile) :
    Outcome.fault? f.render = Declaration.firstFault? f.written := by
  rw [render, fault?_map, lines, fault?_bind _ (fun _ => fault?_bind _ fun _ => fault?_pure _),
    Option.or_none, Heading.fault?_optionLines, Declaration.fault?_topLines, written,
    Declaration.firstFault?_append, Declaration.firstFault?_written]

/-- A file writes its own options in the long form, and those of each declaration, at any depth, in
the form of the declaration. -/
theorem mem_written {f : ProtoFile} {form : OptionForm} {o : OptionAssignment} :
    (form, o) ∈ f.written ↔
      (form = .long ∧ o ∈ f.options) ∨
        ∃ d ∈ Declaration.preorderAll f.declarations, form = d.form ∧ o ∈ d.head.options := by
  rw [written, List.mem_append, Declaration.writtenAll_eq_flatMap, List.mem_flatMap]
  simp only [Heading.mem_written]

/-- **A file fails at its first option without a written form.** The options come in document order:
those of the file, then those of the declarations, each before those in its block. The file is
written exactly if each of them has a written form. Otherwise the fault is that of the first one
that has not: its path if it is in the long form and has one, and a null in its value if not. -/
theorem render_fails_at_first_unwritable (f : ProtoFile) :
    f.written = Heading.written .long { options := f.options } ++
      (Declaration.preorderAll f.declarations).flatMap (fun d => d.head.written d.form) ∧
    ((∃ text, f.render = .ok text) ↔
      (∀ o ∈ f.options, ¬ o.Unwritable .long) ∧
      ∀ d ∈ Declaration.preorderAll f.declarations, ∀ o ∈ d.head.options,
        ¬ o.Unwritable d.form) ∧
    ∀ e, f.render = .error e ↔
      ∃ before form o after, f.written = before ++ (form, o) :: after ∧
        (∀ w ∈ before, ¬ w.2.Unwritable w.1) ∧ o.Unwritable form ∧
        e = if form = .long ∧ o.path ≠ "" then .pathOnLongOption o.name
          else .unsupportedValue o.name "null" := by
  refine ⟨?_, ?_, ?_⟩
  · rw [written, Declaration.writtenAll_eq_flatMap]
  · rw [exists_ok_iff_of_findSome? f.fault?_render]
    -- an option has no fault exactly if it has a written form
    simp only [OptionAssignment.fault?_eq_none]
    constructor
    · intro h
      refine ⟨fun o ho => h (.long, o) (mem_written.mpr (.inl ⟨rfl, ho⟩)), ?_⟩
      intro d hd o ho
      exact h (d.form, o) (mem_written.mpr (.inr ⟨d, hd, rfl, ho⟩))
    · rintro ⟨hfile, hdeclarations⟩ ⟨form, o⟩ hw
      rcases mem_written.mp hw with ⟨rfl, ho⟩ | ⟨d, hd, rfl, ho⟩
      · exact hfile o ho
      · exact hdeclarations d hd o ho
  · intro e
    rw [eq_error_iff_of_findSome? f.fault?_render]
    simp only [OptionAssignment.fault?_eq_none, OptionAssignment.fault?_eq_some, Prod.exists]

/-- A file with a message that has options of its own, the declarations given, and a oneof with an
option that has a path and is null. -/
def unwritableFile (declarations : List Declaration) : ProtoFile where
  options := [{ name := "o", value := .bool true }]
  declarations := [.message { name := "M", options := [{ name := "o", value := .sequence [] }] }
    (declarations ++ [.oneof { name := "c", options := [{ name := "r", path := "a" }] } []]) {}]

/-- A field with two options in the short form: the first has a path, the second holds a null. -/
def nullField : Declaration :=
  .field { name := "x", options := [
    { name := "p", path := "a", value := .bool true },
    { name := "q", value := .mapping [("k", .sequence [.null])] }] } 1 "int32" ""

/-- Without the field, the path of the oneof's option is reported. With it, the null is, which
comes first; the path before it does no harm in the short form. -/
theorem render_fails_at_first_unwritable_nullField :
    (unwritableFile []).render = .error (.pathOnLongOption "r") ∧
    (unwritableFile [nullField]).render = .error (.unsupportedValue "q" "null") ∧
    ∃ text, render { options := [{ name := "o", value := .bool true }] } = .ok text := by
  have hplain : ∀ (form : OptionForm) (name : String) (v : OptionValue), v.hasNull = false →
      ¬ OptionAssignment.Unwritable form { name, value := v } := by
    intro form name v hv
    simp [OptionAssignment.Unwritable, hv]
  refine ⟨?_, ?_, ?_⟩
  · refine ((render_fails_at_first_unwritable _).2.2 _).mpr
      ⟨[(.long, { name := "o", value := .bool true }),
          (.long, { name := "o", value := .sequence [] })],
        .long, { name := "r", path := "a" }, [], rfl, ?_, .inr rfl, rfl⟩
    simp only [List.forall_mem_cons, List.not_mem_nil, false_implies, implies_true, and_true]
    exact ⟨hplain _ _ _ rfl, hplain _ _ _ rfl⟩
  · refine ((render_fails_at_first_unwritable _).2.2 _).mpr
      ⟨[(.long, { name := "o", value := .bool true }),
          (.long, { name := "o", value := .sequence [] }),
          (.short, { name := "p", path := "a", value := .bool true })],
        .short, { name := "q", value := .mapping [("k", .sequence [.null])] }, _, rfl, ?_,
        .inr rfl, rfl⟩
    simp only [List.forall_mem_cons, List.not_mem_nil, false_implies, implies_true, and_true]
    refine ⟨hplain _ _ _ rfl, hplain _ _ _ rfl, ?_⟩
    rintro (⟨hlong, -⟩ | hnull)
    · cases hlong
    · cases hnull
  · refine (render_fails_at_first_unwritable _).2.1.mpr ⟨?_, by simp [Declaration.preorderAll]⟩
    intro o ho
    rw [List.mem_singleton.mp ho]
    exact hplain _ _ _ rfl

end ProtoFile

end ProtoSchema
