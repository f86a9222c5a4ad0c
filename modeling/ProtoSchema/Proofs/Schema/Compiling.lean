/-
When a document compiles.

Compiling lowers a document and writes the result. Lowering fails exactly at a refused
reservation; writing fails exactly at an option that has no written form. The options of a
lowered file are merged settings, so they have no paths, and one is without a written form
exactly if merging leaves a null in it. For decoded documents, whose settings are plain, this
can be seen in the settings themselves (`compile_outcome`).
-/
import ProtoSchema.Bundle.Compile
import ProtoSchema.Proofs.Schema.Decoding
import ProtoSchema.Proofs.Schema.Reservations

set_option autoImplicit false

namespace ProtoSchema

open Outcome

namespace Schema

namespace File

/-! ## The two ways to fail -/

/-- Some message or enum, at any depth, has reserved ranges or names that are refused. -/
def HasRefused (f : File) : Prop :=
  ∃ p ∈ f.parts everywhere, ∃ r, p.reservation? = some r ∧ r.Refused

/-- The settings of the file or of some declaration, at any depth, leave a null. -/
def LeavesNull (f : File) : Prop :=
  ∃ p ∈ f.parts everywhere, OptionMerge.LeavesNull p.settings

variable {f : File}

/-- **A file compiles** exactly if it is lowered and what it is lowered to can be written; its name
stays. -/
theorem compile_eq_ok {g : GeneratedFile} :
    f.compile = .ok g ↔ ∃ file, f.lower = .ok file ∧ ∃ contents, file.render = .ok contents ∧
      g = { name := f.name, contents } := by
  unfold compile
  cases f.lower with
  | error e => simp
  | ok file =>
    cases hr : file.render with
    | error e => simp [hr]
    | ok contents => simp [hr, eq_comm]

/-- An error about reservations comes from lowering. -/
theorem compile_eq_reserved {e : ReservedError} :
    f.compile = .error (.reserved e) ↔ fault? f.lower = some e := by
  unfold compile
  cases f.lower with
  | error d => simp [fault?]
  | ok file => cases hr : file.render <;> simp [hr, fault?]

/-- An error about options comes from writing, after lowering succeeded. -/
theorem compile_eq_print {e : PrintError} :
    f.compile = .error (.print e) ↔ ∃ file, f.lower = .ok file ∧ fault? file.render = some e := by
  unfold compile
  cases f.lower with
  | error d => simp
  | ok file => cases hr : file.render <;> simp [hr, fault?]

/-- **Lowering fails** exactly if a reservation is refused. -/
theorem exists_reserved_iff : (∃ e, f.compile = .error (.reserved e)) ↔ f.HasRefused := by
  simp only [compile_eq_reserved]
  -- both sides are negations: there is no fault, and no part is refused
  rw [← Option.isSome_iff_exists, ← not_iff_not, Option.not_isSome_iff_eq_none,
    fault?_lower_eq_none, HasRefused]
  push Not
  rfl

/-- Lowering succeeds if nothing is refused. -/
theorem exists_lower_eq_ok (h : ¬ f.HasRefused) : ∃ file, f.lower = .ok file := by
  rw [← fault?_eq_none, fault?_lower_eq_none]
  intro p hp r hr hrefused
  exact h ⟨p, hp, r, hr, hrefused⟩

/-! ## Options without a written form -/

/-- **A lowered file fails to be written at the first merged option that holds a null.** -/
theorem fault?_render_of_lower {file : ProtoFile} (h : f.lower = .ok file) :
    fault? file.render =
      (mergedOptions (f.parts everywhere)).findSome? fun o => o.value.fault? o.name := by
  rw [ProtoFile.fault?_render, firstFault?_of_path_eq_empty, written_lower h]
  -- what is written was merged, and merging moves every path into the value
  intro w hw
  have hmem : w.2 ∈ mergedOptions (f.parts everywhere) := by
    rw [← written_lower h]
    exact List.mem_map_of_mem hw
  obtain ⟨p, -, ho⟩ := List.mem_flatMap.mp hmem
  exact OptionMerge.path_of_mem_mergeOptions ho

/-- Only nulls make a lowered file fail to be written. -/
theorem eq_unsupportedValue_of_compile {e : PrintError} (h : f.compile = .error (.print e)) :
    ∃ option, e = .unsupportedValue option "null" := by
  obtain ⟨file, hfile, he⟩ := compile_eq_print.mp h
  rw [fault?_render_of_lower hfile] at he
  obtain ⟨o, -, ho⟩ := List.exists_of_findSome?_eq_some he
  unfold OptionValue.fault? at ho
  split at ho
  · cases ho
    exact ⟨o.name, rfl⟩
  · cases ho

/-- A lowered file is written unless some merged option holds a null. -/
theorem fault?_render_eq_none {file : ProtoFile} (h : f.lower = .ok file)
    (hplain : ∀ p ∈ f.parts everywhere, ∀ s ∈ p.settings, OptionMerge.Plain s) :
    fault? file.render = none ↔ ¬ f.LeavesNull := by
  have hnone : ∀ o : OptionAssignment, o.value.fault? o.name = none ↔ o.value.hasNull = false := by
    intro o
    rw [OptionValue.fault?]
    cases o.value.hasNull <;> simp
  -- no lowered option has a path, so only a null can keep one from being written
  rw [fault?_render_of_lower h, List.findSome?_eq_none_iff]
  simp only [hnone]
  constructor
  · rintro hall ⟨p, hp, hleaves⟩
    obtain ⟨o, ho, hn⟩ := (OptionMerge.exists_hasNull_mergeOptions_iff (hplain p hp)).mpr hleaves
    rw [hall o (List.mem_flatMap.mpr ⟨p, hp, ho⟩)] at hn
    cases hn
  · intro hleaves o ho
    obtain ⟨p, hp, ho⟩ := List.mem_flatMap.mp ho
    by_contra hn
    rw [Bool.not_eq_false] at hn
    have hp' := (OptionMerge.exists_hasNull_mergeOptions_iff (hplain p hp)).mp ⟨o, ho, hn⟩
    exact hleaves ⟨p, hp, hp'⟩

/-! ## Decoded documents -/

/-- **The outcome of a decoded document.** Compiling it never fails at a path; it fails at a
reservation exactly if one is refused; otherwise it fails at a null exactly if a null setting is
left by all later ones of its name; and in all other cases it gives a file. -/
theorem compile_outcome {v : Json} (hv : v.Sorted) (hf : ofJson v = .ok f) :
    (∀ option, f.compile ≠ .error (.print (.pathOnLongOption option))) ∧
    ((∃ e, f.compile = .error (.reserved e)) ↔ f.HasRefused) ∧
    (¬ f.HasRefused →
      ((∃ option, f.compile = .error (.print (.unsupportedValue option "null"))) ↔
        f.LeavesNull)) ∧
    (¬ f.HasRefused → ¬ f.LeavesNull → ∃ g, f.compile = .ok g) := by
  have hplain := plain_of_ofJson hv hf
  refine ⟨?_, exists_reserved_iff, ?_, ?_⟩
  · -- whatever writing fails at is a null
    intro option h
    obtain ⟨_, he⟩ := eq_unsupportedValue_of_compile h
    cases he
  · intro hrefused
    obtain ⟨file, hfile⟩ := exists_lower_eq_ok hrefused
    have hnone := fault?_render_eq_none hfile hplain
    constructor
    · -- the file that failed to be written is the lowered one
      rintro ⟨option, h⟩
      obtain ⟨file', hfile', he⟩ := compile_eq_print.mp h
      rw [hfile] at hfile'
      cases hfile'
      by_contra hleaves
      rw [hnone.mpr hleaves] at he
      cases he
    · intro hleaves
      cases he : fault? file.render with
      | none => exact absurd hleaves (hnone.mp he)
      | some e =>
        have h := compile_eq_print.mpr ⟨file, hfile, he⟩
        obtain ⟨option, rfl⟩ := eq_unsupportedValue_of_compile h
        exact ⟨option, h⟩
  · intro hrefused hleaves
    obtain ⟨file, hfile⟩ := exists_lower_eq_ok hrefused
    obtain ⟨contents, hcontents⟩ :=
      fault?_eq_none.mp ((fault?_render_eq_none hfile hplain).mpr hleaves)
    exact ⟨_, compile_eq_ok.mpr ⟨file, hfile, contents, hcontents, rfl⟩⟩

/-- A document that sets the option `o` twice: `a.b` to null, then a path to true. -/
def twice (path : String) : Json :=
  let setting (path : String) (value : Json) : Json :=
    .object [("path", .string path), ("type", .object [("name", .string "o")]), ("value", value)]
  .object [("options", .array [setting "a.b" .null, setting path (.bool true)])]

theorem sorted_twice (path : String) : (twice path).Sorted := by
  simp only [twice, Json.Sorted, Json.SortedMembers, Json.SortedItems, KeyMap.Ascending,
    List.pairwise_cons, List.Pairwise.nil, List.mem_cons, List.not_mem_nil, or_false, forall_eq,
    forall_eq_or_imp, IsEmpty.forall_iff, implies_true, and_true, and_self]
  decide

/-- The settings of that document. -/
def twiceSettings (path : String) : List OptionSetting := [
  { extension := .here "o", path := "a.b", value := .null },
  { extension := .here "o", path, value := .bool true }]

/-- A file of options alone has no reservations to refuse. -/
theorem not_hasRefused_of_options (options : List OptionSetting) :
    ¬ HasRefused { options } := by
  rintro ⟨p, hp, r, hr, hrefused⟩
  exact fault?_lower_eq_none.mp rfl p hp r hr hrefused

/-- In a file of options alone, a null can be left only by its own options. -/
theorem leavesNull_of_options {options : List OptionSetting} :
    LeavesNull { options } ↔ OptionMerge.LeavesNull options := by
  constructor
  · rintro ⟨p, hp, h⟩
    rcases List.mem_cons.mp hp with rfl | hp
    · exact h
    · obtain ⟨before, s, after, hsplit, -⟩ := h
      have hs : s ∈ p.settings := by
        rw [hsplit]
        simp
      have hnone : Every (fun _ => True) (fun _ => False) (optionParts everywhere options) :=
        every_optionParts options
      exact absurd hs ((hnone p hp).2 s)
  · intro h
    exact ⟨_, List.mem_cons_self, h⟩

/-- A null at `a.b` is left by a setting of `a.c`, but replaced by one of `a`. -/
theorem compile_outcome_twice :
    ofJson (twice "a.c") = .ok { options := twiceSettings "a.c" } ∧
    ofJson (twice "a") = .ok { options := twiceSettings "a" } ∧
    (∃ option, compile { options := twiceSettings "a.c" } =
      .error (.print (.unsupportedValue option "null"))) ∧
    ∃ g, compile { options := twiceSettings "a" } = .ok g := by
  have hbeside : LeavesNull { options := twiceSettings "a.c" } := by
    refine leavesNull_of_options.mpr ⟨[], _, _, rfl, rfl, ?_⟩
    intro t ht _
    rw [List.mem_singleton.mp ht]
    rfl
  have habove : ¬ LeavesNull { options := twiceSettings "a" } := by
    rw [leavesNull_of_options]
    rintro ⟨before, s, after, hsplit, hnull, hafter⟩
    rcases before with - | ⟨t, - | ⟨u, before⟩⟩
    · -- the null itself: the later setting blocks its path
      obtain ⟨rfl, rfl⟩ := List.cons.inj hsplit
      have habsent := hafter _ List.mem_cons_self rfl
      cases habsent
    · -- the later setting is not null
      obtain ⟨-, hrest⟩ := List.cons.inj hsplit
      obtain ⟨rfl, -⟩ := List.cons.inj hrest
      cases hnull
    · simp [twiceSettings] at hsplit
  have outcome := fun path (f : File) => compile_outcome (f := f) (sorted_twice path)
  refine ⟨rfl, rfl, ?_, ?_⟩
  · exact ((outcome "a.c" _ rfl).2.2.1 (not_hasRefused_of_options _)).mpr hbeside
  · exact (outcome "a" _ rfl).2.2.2 (not_hasRefused_of_options _) habove

end File

end Schema

end ProtoSchema
