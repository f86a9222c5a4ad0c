/-
What a decoded option value can look like.

Decoding drops the null members and items of a JSON value and keeps the others in their
order, so a decoded value is sorted if the JSON value is. The proof follows the recursion of the
decoder; `ofItems_cons`, `ofMembers_cons` and `ofJson_object_cases` say what one step of it
does.
-/
import ProtoSchema.Proofs.OptionValue.Sorted
import ProtoSchema.Proofs.Outcome

set_option autoImplicit false

namespace ProtoSchema

open Outcome

namespace OptionValue

/-! ## One step of the decoder -/

/-- A null item is dropped; any other is decoded and comes first. -/
theorem ofItems_cons {j : Json} {rest : List Json} {vs : List OptionValue}
    (h : ofItems (j :: rest) = .ok vs) :
    (j = .null ∧ ofItems rest = .ok vs) ∨
      (j ≠ .null ∧ ∃ a as, ofJson j = .ok a ∧ ofItems rest = .ok as ∧ vs = a :: as) := by
  by_cases hj : j = .null
  · subst hj
    exact .inl ⟨rfl, h⟩
  · rw [ofItems] at h
    · obtain ⟨a, ha, h⟩ := bind_eq_ok.mp h
      obtain ⟨as, has, h⟩ := bind_eq_ok.mp h
      exact .inr ⟨hj, a, as, ha, has, (pure_eq_ok.mp h).symm⟩
    · exact hj

/-- A null member is dropped; any other is decoded and comes first, under its name. -/
theorem ofMembers_cons {name : String} {j : Json} {rest : List (String × Json)}
    {entries : List (String × OptionValue)} (h : ofMembers ((name, j) :: rest) = .ok entries) :
    (j = .null ∧ ofMembers rest = .ok entries) ∨
      (j ≠ .null ∧
        ∃ a as, ofJson j = .ok a ∧ ofMembers rest = .ok as ∧ entries = (name, a) :: as) := by
  by_cases hj : j = .null
  · subst hj
    exact .inl ⟨rfl, h⟩
  · rw [ofMembers] at h
    · obtain ⟨a, ha, h⟩ := bind_eq_ok.mp h
      obtain ⟨as, has, h⟩ := bind_eq_ok.mp h
      exact .inr ⟨hj, a, as, ha, has, (pure_eq_ok.mp h).symm⟩
    · exact hj

/-- A marker stands for a value without parts. -/
theorem enumLiteralOfMembers_eq_ok {members : List (String × Json)} {v : OptionValue}
    (h : enumLiteralOfMembers members = .ok v) : ∃ name, v = .enumLiteral name := by
  unfold enumLiteralOfMembers at h
  split at h
  · cases h
    exact ⟨_, rfl⟩
  · cases h

/-- A marked object of bytes decodes to bytes or fails. -/
theorem bytesOfMembers_eq_ok {members : List (String × Json)} {v : OptionValue}
    (h : bytesOfMembers members = .ok v) : ∃ bs, v = .bytes bs := by
  unfold bytesOfMembers at h
  split at h
  · obtain ⟨bs, -, h⟩ := map_eq_ok.mp h
    exact ⟨bs, h.symm⟩
  · cases h

/-- **An object is a marker of one of two kinds, or else a mapping.** -/
theorem ofJson_object_cases {members : List (String × Json)} {v : OptionValue}
    (h : ofJson (.object members) = .ok v) :
    (∃ name, v = .enumLiteral name) ∨ (∃ bs, v = .bytes bs) ∨
      (markerOf members ≠ some enumMarker ∧ markerOf members ≠ some bytesMarker ∧
        ∃ entries, ofMembers members = .ok entries ∧ v = .mapping entries) := by
  rw [ofJson] at h
  split at h
  · exact .inl (enumLiteralOfMembers_eq_ok h)
  · rename_i henum
    split at h
    · exact .inr (.inl (bytesOfMembers_eq_ok h))
    · rename_i hbytes
      obtain ⟨entries, he, rfl⟩ := map_eq_ok.mp h
      exact .inr (.inr ⟨henum, hbytes, entries, he, rfl⟩)

/-! ## Sorted values -/

/-- The keys of decoded members are among the names of the members. -/
theorem keys_ofMembers {members : List (String × Json)} {entries : List (String × OptionValue)}
    (h : ofMembers members = .ok entries) {key : String} (hkey : key ∈ KeyMap.keys entries) :
    key ∈ KeyMap.keys members := by
  induction members generalizing entries with
  | nil =>
    cases h
    simp [KeyMap.keys] at hkey
  | cons m rest ih =>
    obtain ⟨name, j⟩ := m
    rcases ofMembers_cons h with ⟨-, h⟩ | ⟨-, a, as, -, has, rfl⟩
    · exact List.mem_cons_of_mem _ (ih h hkey)
    · rcases List.mem_cons.mp hkey with heq | hmem
      · rw [heq]
        exact List.mem_cons_self
      · exact List.mem_cons_of_mem _ (ih has hmem)

/-- Dropping null members leaves the names in ascending order. -/
theorem ascending_ofMembers {members : List (String × Json)}
    {entries : List (String × OptionValue)} (hs : KeyMap.Ascending members)
    (h : ofMembers members = .ok entries) : KeyMap.Ascending entries := by
  induction members generalizing entries with
  | nil =>
    cases h
    exact KeyMap.ascending_nil
  | cons m rest ih =>
    obtain ⟨name, j⟩ := m
    obtain ⟨hlt, htail⟩ := KeyMap.ascending_cons.mp hs
    rcases ofMembers_cons h with ⟨-, h⟩ | ⟨-, a, as, -, has, rfl⟩
    · exact ih htail h
    · exact KeyMap.ascending_cons.mpr
        ⟨fun key hkey => hlt key (keys_ofMembers has hkey), ih htail has⟩

mutual

/-- **A sorted JSON value stands for a sorted option value.** -/
theorem sorted_ofJson : ∀ {j : Json} {v : OptionValue}, j.Sorted → ofJson j = .ok v → v.Sorted
  | .null, v, _, h | .bool _, v, _, h | .number _, v, _, h | .string _, v, _, h => by
    cases h
    trivial
  | .array items, v, hj, h => by
    obtain ⟨vs, hvs, rfl⟩ := map_eq_ok.mp h
    exact sortedItems_ofItems hj hvs
  | .object members, v, hj, h => by
    obtain ⟨name, rfl⟩ | ⟨bs, rfl⟩ | ⟨-, -, entries, he, rfl⟩ := ofJson_object_cases h
    · trivial
    · trivial
    · exact ⟨ascending_ofMembers hj.1 he, sortedEntries_ofMembers hj.2 he⟩

/-- Items of a sorted document decode to sorted values. -/
theorem sortedItems_ofItems : ∀ {items : List Json} {vs : List OptionValue},
    Json.SortedItems items → ofItems items = .ok vs → SortedItems vs
  | [], vs, _, h => by
    cases h
    trivial
  | j :: rest, vs, hs, h => by
    rcases ofItems_cons h with ⟨-, h⟩ | ⟨-, a, as, ha, has, rfl⟩
    · exact sortedItems_ofItems hs.2 h
    · exact ⟨sorted_ofJson hs.1 ha, sortedItems_ofItems hs.2 has⟩

/-- Members of a sorted document decode to sorted values. -/
theorem sortedEntries_ofMembers : ∀ {members : List (String × Json)}
    {entries : List (String × OptionValue)},
    Json.SortedMembers members → ofMembers members = .ok entries → SortedEntries entries
  | [], entries, _, h => by
    cases h
    trivial
  | (name, j) :: rest, entries, hs, h => by
    rcases ofMembers_cons h with ⟨-, h⟩ | ⟨-, a, as, ha, has, rfl⟩
    · exact sortedEntries_ofMembers hs.2 h
    · exact ⟨sorted_ofJson hs.1 ha, sortedEntries_ofMembers hs.2 has⟩

end

end OptionValue

end ProtoSchema
