/-
Sorting the members of objects.

The encoder of a record writes its members in the record's own order; in a value that was read
they ascend. Sorting turns the first into the second and changes nothing else: a value that is
sorted stays as it is (`sorted_eq_self`), and the members of an object with distinct names are
only rearranged (`sorted_object_perm`), so that whatever is written inside a value is also
found inside its sorted form, one level deeper in the nesting.
-/
import ProtoSchema.Json.Basic
import ProtoSchema.Proofs.KeyMap

set_option autoImplicit false

namespace ProtoSchema

namespace Json

theorem sortedItems_eq_map (items : List Json) : sortedItems items = items.map sorted := by
  induction items with
  | nil => rfl
  | cons v rest ih => rw [sortedItems, ih, List.map_cons]

theorem sortedMembers_eq_map (members : List (String × Json)) :
    sortedMembers members = members.map fun m => (m.1, m.2.sorted) := by
  induction members with
  | nil => rfl
  | cons m rest ih =>
    obtain ⟨name, v⟩ := m
    rw [sortedMembers, ih, List.map_cons]

/-- Sorting inside the members leaves their names. -/
theorem keys_sortedMembers (members : List (String × Json)) :
    KeyMap.keys (sortedMembers members) = KeyMap.keys members := by
  rw [sortedMembers_eq_map, KeyMap.keys, KeyMap.keys, List.map_map]
  rfl

/-! ## Sorted values -/

mutual

/-- **A sorted document is left as it is by sorting.** -/
theorem sorted_eq_self : ∀ {v : Json}, v.Sorted → v.sorted = v
  | .null, _ | .bool _, _ | .number _, _ | .string _, _ => rfl
  | .array items, h => by
    have hitems : sortedItems items = items := sortedItems_eq_self h
    rw [sorted, hitems]
  | .object members, h => by
    have hmembers : sortedMembers members = members := sortedMembers_eq_self h.2
    rw [sorted, hmembers, KeyMap.ofList_eq_self h.1]

theorem sortedItems_eq_self : ∀ {items : List Json}, SortedItems items →
    sortedItems items = items
  | [], _ => rfl
  | v :: rest, h => by rw [sortedItems, sorted_eq_self h.1, sortedItems_eq_self h.2]

theorem sortedMembers_eq_self : ∀ {members : List (String × Json)}, SortedMembers members →
    sortedMembers members = members
  | [], _ => rfl
  | (name, v) :: rest, h => by
    rw [sortedMembers, sorted_eq_self h.1, sortedMembers_eq_self h.2]

end

/-- Sorting an object rearranges its sorted members. -/
theorem sorted_object_perm {members : List (String × Json)}
    (h : (KeyMap.keys members).Nodup) :
    ∃ ms, (Json.object members).sorted = .object ms ∧
      ms.Perm (members.map fun m => (m.1, m.2.sorted)) := by
  refine ⟨KeyMap.ofList (sortedMembers members), rfl, ?_⟩
  rw [← sortedMembers_eq_map]
  exact KeyMap.ofList_perm (by rwa [keys_sortedMembers])

/-! ## Nesting -/

/-- An array is higher than each of its items. -/
theorem height_lt_array {v : Json} {items : List Json} (h : v ∈ items) :
    v.height < (Json.array items).height := by
  rw [height, Nat.lt_succ_iff]
  induction items with
  | nil => cases h
  | cons w rest ih =>
    rw [heightItems]
    rcases List.mem_cons.mp h with rfl | hmem
    · exact Nat.le_max_left _ _
    · exact le_trans (ih hmem) (Nat.le_max_right _ _)

/-- An object is higher than each of its members. -/
theorem height_lt_object {name : String} {v : Json} {members : List (String × Json)}
    (h : (name, v) ∈ members) : v.height < (Json.object members).height := by
  rw [height, Nat.lt_succ_iff]
  induction members with
  | nil => cases h
  | cons m rest ih =>
    obtain ⟨other, w⟩ := m
    rw [heightMembers]
    rcases List.mem_cons.mp h with heq | hmem
    · cases heq
      exact Nat.le_max_left _ _
    · exact le_trans (ih hmem) (Nat.le_max_right _ _)

theorem height_sorted_lt_array {v : Json} {items : List Json} (h : v ∈ items) :
    v.sorted.height < (Json.array items).sorted.height := by
  rw [sorted, sortedItems_eq_map]
  exact height_lt_array (List.mem_map_of_mem h)

/-- This holds after sorting as well, if no member's name is given twice: of two members with one
name only the later one is kept. -/
theorem height_sorted_lt_object {name : String} {v : Json} {members : List (String × Json)}
    (hnodup : (KeyMap.keys members).Nodup) (h : (name, v) ∈ members) :
    v.sorted.height < (Json.object members).sorted.height := by
  obtain ⟨ms, hms, hperm⟩ := sorted_object_perm hnodup
  have hmem : (name, v.sorted) ∈ ms :=
    hperm.mem_iff.mpr (List.mem_map.mpr ⟨(name, v), h, rfl⟩)
  rw [hms]
  exact height_lt_object hmem

end Json

end ProtoSchema
