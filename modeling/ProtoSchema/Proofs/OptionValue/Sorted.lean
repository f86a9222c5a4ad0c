/-
Option values whose mappings are sorted.

A mapping is written as a list of entries, but it stands for a finite map: its keys strictly
ascend, and so do those of every mapping inside it (`Sorted`). Wrapping a value in the
mappings of a path keeps it sorted.
-/
import ProtoSchema.Option.Path
import ProtoSchema.Proofs.KeyMap

set_option autoImplicit false

namespace ProtoSchema

namespace OptionValue

mutual

/-- **Sorted values**: the keys of every mapping, at any depth, strictly ascend. -/
def Sorted : OptionValue → Prop
  | .mapping entries => KeyMap.Ascending entries ∧ SortedEntries entries
  | .sequence items => SortedItems items
  | _ => True

/-- Every item is sorted. -/
def SortedItems : List OptionValue → Prop
  | [] => True
  | v :: rest => v.Sorted ∧ SortedItems rest

/-- Every entry's value is sorted. -/
def SortedEntries : List (String × OptionValue) → Prop
  | [] => True
  | (_, v) :: rest => v.Sorted ∧ SortedEntries rest

end

/-- What is found in a sorted mapping is sorted. -/
theorem SortedEntries.find? {entries : List (String × OptionValue)} (h : SortedEntries entries)
    {key : String} {v : OptionValue} (hv : KeyMap.find? entries key = some v) : v.Sorted := by
  induction entries with
  | nil => simp at hv
  | cons e entries ih =>
    obtain ⟨k, w⟩ := e
    rw [KeyMap.find?_cons] at hv
    by_cases hk : k = key
    · rw [if_pos hk] at hv
      cases hv
      exact h.1
    · rw [if_neg hk] at hv
      exact ih h.2 hv

/-! ## Paths -/

/-- A mapping with one key is sorted, so a path adds only sorted mappings. -/
theorem Sorted.nest {v : OptionValue} (h : v.Sorted) (keys : List String) :
    (OptionPath.nest keys v).Sorted := by
  induction keys with
  | nil => exact h
  | cons key keys ih =>
    have hone : KeyMap.Ascending [(key, OptionPath.nest keys v)] := List.pairwise_singleton ..
    exact ⟨hone, ih, trivial⟩

theorem Sorted.expand {v : OptionValue} (h : v.Sorted) (path : String) :
    (OptionPath.expand path v).Sorted := h.nest _

end OptionValue

end ProtoSchema
