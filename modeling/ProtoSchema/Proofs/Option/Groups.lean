/-
Options grouped by name.

Only settings of one name meet when options are merged, and the names come out in ascending
order. So a list of settings may be reordered freely as long as the settings of each name keep
their order among themselves (`SameGroups`): the merged options are the same.
-/
import ProtoSchema.Proofs.Option.LastWriter

set_option autoImplicit false

namespace ProtoSchema

namespace OptionMerge

open Schema (OptionSetting)

/-- **The same settings in another order**, those of each name in the same order. -/
def SameGroups (settings others : List OptionSetting) : Prop :=
  settings.Perm others ∧ ∀ name, group name settings = group name others

theorem SameGroups.refl (settings : List OptionSetting) : SameGroups settings settings :=
  ⟨List.Perm.refl _, fun _ => rfl⟩

/-- The accumulated values are an ascending map: each step inserts. -/
theorem ascending_accumulate (settings : List OptionSetting) :
    (accumulate settings).Ascending := by
  induction settings using List.reverseRecOn with
  | nil => exact KeyMap.ascending_nil
  | append_singleton settings s ih =>
    rw [accumulate_concat, step]
    exact ih.insert _ _

/-- **Merging depends on the groups only**: settings of different names can be interleaved in any
way. -/
theorem SameGroups.accumulate_eq {settings others : List OptionSetting}
    (h : SameGroups settings others) : accumulate settings = accumulate others := by
  refine KeyMap.eq_of_find?_eq (ascending_accumulate settings) (ascending_accumulate others) ?_
  intro name
  rw [find?_accumulate, find?_accumulate, valuesOf, valuesOf, h.2 name]

/-- **Merging looks at one name at a time.** -/
theorem SameGroups.mergeOptions_eq {settings others : List OptionSetting}
    (h : SameGroups settings others) : mergeOptions settings = mergeOptions others := by
  rw [mergeOptions, mergeOptions, h.accumulate_eq]

end OptionMerge

end ProtoSchema
