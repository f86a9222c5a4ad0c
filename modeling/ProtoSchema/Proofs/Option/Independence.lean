/-
Options of different names do not meet.

All names share one map while settings are merged, and every setting takes the value of its name
out and puts it back. Still the merged options of a name are those that its own settings give when
they are merged alone (`named_mergeOptions_eq`), whatever stands between them. The reason is that
the map has one entry per name and the listing goes through it in order: the part of the listing
that belongs to a name is written by the one entry of that name (`named_mergeOptions`).
-/
import ProtoSchema.Proofs.Option.Nulls
import ProtoSchema.Proofs.Text.Utf8

set_option autoImplicit false

namespace ProtoSchema

namespace OptionMerge

open Schema (OptionSetting)

/-- **The options of one name**, in their order. -/
def named (name : String) (os : List OptionAssignment) : List OptionAssignment :=
  os.filter fun o => o.name == name

theorem named_append (name : String) (os ps : List OptionAssignment) :
    named name (os ++ ps) = named name os ++ named name ps := List.filter_append _ _

/-! ## What one entry writes -/

/-- Every assignment of a merged value has the name of its option. -/
theorem name_of_mem_assignments {name : String} {m : OptionValue} {o : OptionAssignment}
    (h : o ∈ assignments name m) : o.name = name := by
  unfold assignments at h
  split at h
  · obtain ⟨item, -, rfl⟩ := List.mem_map.mp h
    rfl
  · rw [List.mem_singleton.mp h]

/-- A merged value that is no sequence is assigned once. -/
theorem assignments_of_not_sequence (name : String) {m : OptionValue}
    (h : ∀ items, m ≠ .sequence items) : assignments name m = [{ name, value := m }] := by
  rw [assignments]
  exact h

/-- An entry writes nothing exactly if its value is the empty sequence. -/
theorem assignments_eq_nil {name : String} {m : OptionValue} :
    assignments name m = [] ↔ m = .sequence [] := by
  unfold assignments
  split
  · rw [List.map_eq_nil_iff, OptionValue.sequence.injEq]
  · rename_i hne
    exact iff_of_false (List.cons_ne_nil _ _) (hne [])

/-- All assignments of an option's value are found under the option's name. -/
theorem named_assignments_self (name : String) (m : OptionValue) :
    named name (assignments name m) = assignments name m := by
  rw [named, List.filter_eq_self]
  intro o ho
  rw [name_of_mem_assignments ho, beq_self_eq_true]

/-- None is found under another name. -/
theorem named_assignments_of_ne {name other : String} (h : other ≠ name) (m : OptionValue) :
    named name (assignments other m) = [] := by
  rw [named, List.filter_eq_nil_iff]
  intro o ho
  rw [name_of_mem_assignments ho, beq_iff_eq]
  exact h

/-! ## What the whole map writes -/

/-- In an ascending map the options of a name come from the one entry of that name. -/
theorem named_flatMap_assignments {values : KeyMap OptionValue} (h : values.Ascending)
    (name : String) :
    named name (values.flatMap fun e => assignments e.1 e.2) =
      (values.find? name).elim [] (assignments name) := by
  induction values with
  | nil => rfl
  | cons e values ih =>
    obtain ⟨key, m⟩ := e
    have hrest := ih (KeyMap.ascending_cons.mp h).2
    rw [List.flatMap_cons, named_append, hrest, KeyMap.find?_cons]
    by_cases hk : key = name
    · -- no later entry has this name
      subst hk
      rw [h.find?_tail, if_pos rfl, named_assignments_self, Option.elim_none, List.append_nil,
        Option.elim_some]
    · rw [if_neg hk, named_assignments_of_ne hk, List.nil_append]

/-- **The merged options of a name** are what its accumulated value gives. -/
theorem named_mergeOptions (name : String) (settings : List OptionSetting) :
    named name (mergeOptions settings) =
      ((accumulate settings).find? name).elim [] (assignments name) :=
  named_flatMap_assignments (ascending_accumulate settings) name

/-- The merged options come in the order of their names. -/
theorem pairwise_mergeOptions (settings : List OptionSetting) :
    (mergeOptions settings).Pairwise fun a b => a.name ≤ b.name := by
  rw [mergeOptions, List.pairwise_flatMap]
  constructor
  · -- one entry writes options of one name
    rintro ⟨name, m⟩ -
    refine List.pairwise_of_forall_mem_list ?_
    intro a ha b hb
    rw [name_of_mem_assignments ha, name_of_mem_assignments hb]
  · refine (ascending_accumulate settings).imp ?_
    intro e d hlt a ha b hb
    rw [name_of_mem_assignments ha, name_of_mem_assignments hb]
    exact le_of_lt hlt

/-! ## One name at a time -/

/-- The settings of one name are a group of their own. -/
theorem group_group (name : String) (settings : List OptionSetting) :
    group name (group name settings) = group name settings := by
  rw [group, List.filter_eq_self]
  intro s hs
  exact (List.mem_filter.mp hs).2

/-- Settings of one name give options of that name only. -/
theorem name_of_mem_mergeOptions_group {name : String} {settings : List OptionSetting}
    {o : OptionAssignment} (h : o ∈ mergeOptions (group name settings)) : o.name = name := by
  obtain ⟨other, m, hm, ho⟩ := mem_mergeOptions.mp h
  rw [name_of_mem_assignments ho]
  -- a name with a value was set, and only this one was
  have hset : valuesOf other (group name settings) ≠ [] := by
    intro hnil
    rw [find?_accumulate, hnil, OptionValue.overlayAll_nil] at hm
    cases hm
  obtain ⟨v, hv⟩ := List.exists_mem_of_ne_nil _ hset
  obtain ⟨s, hs, hname, -⟩ := mem_valuesOf.mp hv
  rw [← hname]
  exact beq_iff_eq.mp (List.mem_filter.mp hs).2

/-- The options of a name depend on the settings of that name only. -/
theorem named_mergeOptions_congr {name : String} {settings others : List OptionSetting}
    (h : group name others = group name settings) :
    named name (mergeOptions others) = named name (mergeOptions settings) := by
  rw [named_mergeOptions, named_mergeOptions, find?_accumulate, find?_accumulate, valuesOf,
    valuesOf, h]

/-- **The options of a name are its own settings merged alone.** -/
theorem named_mergeOptions_eq (name : String) (settings : List OptionSetting) :
    named name (mergeOptions settings) = mergeOptions (group name settings) := by
  have hall : named name (mergeOptions (group name settings)) =
      mergeOptions (group name settings) := by
    rw [named, List.filter_eq_self]
    intro o ho
    rw [name_of_mem_mergeOptions_group ho, beq_self_eq_true]
  rw [← hall]
  exact (named_mergeOptions_congr (group_group name settings)).symm

/-- A name that is set has a value. -/
theorem exists_find?_accumulate {name : String} {settings : List OptionSetting}
    (h : ∃ s ∈ settings, s.extension.fullName = name) :
    ∃ m, (accumulate settings).find? name = some m := by
  obtain ⟨s, hs, hname⟩ := h
  have hmem : expanded s ∈ valuesOf name settings := mem_valuesOf.mpr ⟨s, hs, hname, rfl⟩
  rw [← Option.ne_none_iff_exists', find?_accumulate, ne_eq, OptionValue.overlayAll_eq_none]
  exact List.ne_nil_of_mem hmem

/-- **Options are merged name by name.** They come in the order of the bytes of their names and
without paths. Those of a name are its settings merged alone, so other settings may stand anywhere
between them. A name that is set has a value; if this is a sequence, its options are the items in
their order, and otherwise there is one, with the value. So a name is lost exactly if its value is
the empty sequence. -/
theorem mergeOptions_name_by_name (settings : List OptionSetting) :
    (mergeOptions settings).Pairwise (fun a b => Utf8.bytes a.name ≤ Utf8.bytes b.name) ∧
    (∀ o ∈ mergeOptions settings, o.path = "") ∧
    ∀ name,
      named name (mergeOptions settings) = mergeOptions (group name settings) ∧
      (∀ others, group name others = group name settings →
        named name (mergeOptions others) = named name (mergeOptions settings)) ∧
      ((∃ s ∈ settings, s.extension.fullName = name) →
        ∃ m, (accumulate settings).find? name = some m ∧
          (∀ items, m = .sequence items →
            named name (mergeOptions settings) = items.map fun item => { name, value := item }) ∧
          ((∀ items, m ≠ .sequence items) →
            named name (mergeOptions settings) = [{ name, value := m }]) ∧
          (named name (mergeOptions settings) = [] ↔ m = .sequence [])) := by
  refine ⟨?_, fun o => path_of_mem_mergeOptions, ?_⟩
  · refine (pairwise_mergeOptions settings).imp ?_
    intro a b hab
    -- names are compared as strings; the bytes of their encodings compare alike
    rcases lt_or_eq_of_le hab with hlt | heq
    · exact List.le_of_lt (Utf8.bytes_lt_bytes hlt)
    · rw [heq]
      exact List.le_refl _
  intro name
  refine ⟨named_mergeOptions_eq name settings, fun others => named_mergeOptions_congr, ?_⟩
  intro hset
  obtain ⟨m, hm⟩ := exists_find?_accumulate hset
  -- under its name the options are what the accumulated value is assigned to
  have hnamed : named name (mergeOptions settings) = assignments name m := by
    rw [named_mergeOptions, hm, Option.elim_some]
  refine ⟨m, hm, ?_, ?_, ?_⟩
  · rintro items rfl
    exact hnamed
  · intro hne
    rw [hnamed, assignments_of_not_sequence name hne]
  · rw [hnamed, assignments_eq_nil]

/-- Settings of three options, those of `a.b.c` apart from each other and through two different
references. -/
def interleavedSettings : List OptionSetting := [
  { extension := ⟨"b.c", "", "a"⟩, path := "x", value := .bool true },
  { extension := .here "tags", value := .sequence [.string "s", .string "t"] },
  { extension := .here "lost", value := .sequence [] },
  { extension := ⟨"c", "", "a.b"⟩, path := "y", value := .bool false }]

/-- The two references are one option, the list is spread, and the empty list is lost. -/
theorem mergeOptions_name_by_name_interleaved :
    (∃ s ∈ interleavedSettings, s.extension.fullName = "a.b.c") ∧
    (∃ s ∈ interleavedSettings, s.extension.fullName = "tags") ∧
    (∃ s ∈ interleavedSettings, s.extension.fullName = "lost") ∧
    named "a.b.c" (mergeOptions interleavedSettings) =
      [{ name := "a.b.c", value := .mapping [("x", .bool true), ("y", .bool false)] }] ∧
    named "tags" (mergeOptions interleavedSettings) =
      [{ name := "tags", value := .string "s" }, { name := "tags", value := .string "t" }] ∧
    named "lost" (mergeOptions interleavedSettings) = [] := by
  have law := (mergeOptions_name_by_name interleavedSettings).2.2
  have hfirst : ∃ s ∈ interleavedSettings, s.extension.fullName = "a.b.c" :=
    ⟨_, List.mem_cons_self, rfl⟩
  have htags : ∃ s ∈ interleavedSettings, s.extension.fullName = "tags" :=
    ⟨_, List.mem_cons_of_mem _ List.mem_cons_self, rfl⟩
  have hlost : ∃ s ∈ interleavedSettings, s.extension.fullName = "lost" :=
    ⟨_, List.mem_cons_of_mem _ (List.mem_cons_of_mem _ List.mem_cons_self), rfl⟩
  refine ⟨hfirst, htags, hlost, ?_, ?_, ?_⟩
  · obtain ⟨m, hm, -, hone, -⟩ := (law "a.b.c").2.2 hfirst
    cases hm
    exact hone fun items h => nomatch h
  · obtain ⟨m, hm, hitems, -⟩ := (law "tags").2.2 htags
    cases hm
    exact hitems _ rfl
  · obtain ⟨m, hm, -, -, hnone⟩ := (law "lost").2.2 hlost
    cases hm
    exact hnone.mpr rfl

end OptionMerge

end ProtoSchema
