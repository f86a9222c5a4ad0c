/-
Ascending key maps.

`KeyMap.insert` puts a new key at its place, so a map that is built by inserting keeps its
keys strictly ascending. What this buys is extensionality: two ascending maps with the same
value at every key are the same list. Every statement that a result does not depend on the
order of an input goes through `eq_of_find?_eq` below.
-/
import Mathlib.Data.String.Basic
import ProtoSchema.KeyMap

set_option autoImplicit false

namespace ProtoSchema

namespace KeyMap

variable {β : Type}

/-! ## Keys -/

/-- The keys are those of the entries. -/
theorem mem_keys {m : KeyMap β} {key : String} : key ∈ m.keys ↔ ∃ v, (key, v) ∈ m := by
  simp [keys]

/-- A key has a value exactly if it is listed. -/
theorem find?_isSome_iff (m : KeyMap β) (key : String) :
    (m.find? key).isSome ↔ key ∈ m.keys := by
  induction m with
  | nil => simp [keys]
  | cons e m ih =>
    obtain ⟨k, v⟩ := e
    rw [find?_cons]
    by_cases hk : k = key
    · simp [keys, hk]
    · rw [if_neg hk, ih]
      simp [keys, Ne.symm hk]

/-- Nothing is found exactly for the keys that are missing. -/
theorem find?_eq_none_iff (m : KeyMap β) (key : String) :
    m.find? key = none ↔ key ∉ m.keys := by
  rw [← find?_isSome_iff, Option.not_isSome_iff_eq_none]

/-- What is found is an entry. -/
theorem find?_mem {m : KeyMap β} {key : String} {v : β} (h : m.find? key = some v) :
    (key, v) ∈ m := by
  induction m with
  | nil => simp at h
  | cons e m ih =>
    obtain ⟨k, w⟩ := e
    rw [find?_cons] at h
    by_cases hk : k = key
    · rw [if_pos hk] at h
      cases h
      rw [hk]
      exact List.mem_cons_self
    · rw [if_neg hk] at h
      exact List.mem_cons_of_mem _ (ih h)

/-- Inserting adds its key and loses none. -/
theorem mem_keys_insert (m : KeyMap β) (key other : String) (value : β) :
    other ∈ (m.insert key value).keys ↔ other = key ∨ other ∈ m.keys := by
  rw [← find?_isSome_iff, ← find?_isSome_iff, find?_insert]
  by_cases h : key = other
  · simp [h]
  · simp [h, Ne.symm h]

/-- The entries after inserting are the new one and old ones. -/
theorem mem_insert {m : KeyMap β} {key : String} {value : β} {e : String × β}
    (h : e ∈ m.insert key value) : e = (key, value) ∨ e ∈ m := by
  induction m with
  | nil => exact .inl (List.mem_singleton.mp h)
  | cons f m ih =>
    obtain ⟨k, v⟩ := f
    unfold insert at h
    split at h
    · exact List.mem_cons.mp h
    · split at h
      · rcases List.mem_cons.mp h with heq | hmem
        · exact .inl heq
        · exact .inr (List.mem_cons_of_mem _ hmem)
      · rcases List.mem_cons.mp h with heq | hmem
        · exact .inr (heq ▸ List.mem_cons_self)
        · exact (ih hmem).imp id (List.mem_cons_of_mem _)

/-! ## The invariant -/

theorem ascending_nil : Ascending ([] : KeyMap β) := List.Pairwise.nil

theorem ascending_cons {k : String} {v : β} {m : KeyMap β} :
    Ascending ((k, v) :: m) ↔ (∀ key ∈ m.keys, k < key) ∧ Ascending m := by
  simp [Ascending, keys]

theorem ascending_pair {k l : String} (h : k < l) (v w : β) : Ascending [(k, v), (l, w)] :=
  List.pairwise_pair.mpr h

/-- Behind its entry a key does not appear again. -/
theorem Ascending.find?_tail {k : String} {v : β} {m : KeyMap β}
    (h : Ascending ((k, v) :: m)) : m.find? k = none := by
  rw [find?_eq_none_iff]
  intro hk
  exact lt_irrefl k ((ascending_cons.mp h).1 k hk)

/-- In an ascending map every entry is the one that is found at its key. -/
theorem Ascending.find?_of_mem {m : KeyMap β} (h : m.Ascending) {key : String} {v : β}
    (hm : (key, v) ∈ m) : m.find? key = some v := by
  induction m with
  | nil => simp at hm
  | cons e m ih =>
    obtain ⟨k, w⟩ := e
    obtain ⟨hlt, htail⟩ := ascending_cons.mp h
    rw [find?_cons]
    rcases List.mem_cons.mp hm with heq | hmem
    · cases heq
      rw [if_pos rfl]
    · have hk : k < key := hlt key (mem_keys.mpr ⟨v, hmem⟩)
      rw [if_neg (ne_of_lt hk)]
      exact ih htail hmem

/-- **Inserting keeps the keys ascending.** -/
theorem Ascending.insert {m : KeyMap β} (h : m.Ascending) (key : String) (value : β) :
    (m.insert key value).Ascending := by
  induction m with
  | nil => simp [KeyMap.insert, Ascending]
  | cons e m ih =>
    obtain ⟨k, v⟩ := e
    obtain ⟨hlt, htail⟩ := ascending_cons.mp h
    unfold KeyMap.insert
    split
    · -- the new key comes first, before a key that is before all others
      rename_i hk
      refine ascending_cons.mpr ⟨?_, h⟩
      intro other hother
      rcases List.mem_cons.mp hother with rfl | hmem
      · exact hk
      · exact lt_trans hk (hlt other hmem)
    · rename_i hk
      split
      · rename_i heq
        subst heq
        exact ascending_cons.mpr ⟨hlt, htail⟩
      · -- the new key goes somewhere behind the first, which stays the least
        rename_i hne
        have hkey : k < key := lt_of_le_of_ne (not_lt.mp hk) (Ne.symm hne)
        refine ascending_cons.mpr ⟨?_, ih htail⟩
        intro other hother
        rcases (mem_keys_insert m key other value).mp hother with rfl | hmem
        · exact hkey
        · exact hlt other hmem

/-! ## Maps of lists -/

/-- A key that was not there joins the others. -/
theorem insert_perm {m : KeyMap β} {key : String} (h : key ∉ m.keys) (value : β) :
    (m.insert key value).Perm ((key, value) :: m) := by
  induction m with
  | nil => exact List.Perm.refl _
  | cons e m ih =>
    obtain ⟨k, v⟩ := e
    have hne : key ≠ k := fun heq => h (List.mem_cons.mpr (.inl heq))
    have hrest : key ∉ keys m := fun hmem => h (List.mem_cons_of_mem _ hmem)
    rw [insert, if_neg hne]
    split
    · exact List.Perm.refl _
    · exact ((ih hrest).cons (k, v)).trans (List.Perm.swap (key, value) (k, v) m)

/-- Entries under keys of their own are all there after they are inserted. -/
theorem foldl_insert_perm {entries m : KeyMap β} (hnodup : (keys entries).Nodup)
    (hnew : ∀ key ∈ keys entries, key ∉ m.keys) :
    (entries.foldl (fun m e => m.insert e.1 e.2) m).Perm (entries ++ m) := by
  induction entries generalizing m with
  | nil => exact List.Perm.refl _
  | cons e entries ih =>
    obtain ⟨k, v⟩ := e
    obtain ⟨hk, hrest⟩ := List.nodup_cons.mp hnodup
    have hkm : k ∉ m.keys := hnew k List.mem_cons_self
    -- the other keys are still new once the first one is in
    have hnew' : ∀ key ∈ keys entries, key ∉ (m.insert k v).keys := by
      intro key hkey hmem
      rcases (mem_keys_insert m k key v).mp hmem with rfl | hmem
      · exact hk hkey
      · exact hnew key (List.mem_cons_of_mem _ hkey) hmem
    rw [List.foldl_cons]
    exact (ih hrest hnew').trans
      (((insert_perm hkm v).append_left entries).trans List.perm_middle)

/-- **Distinct entries are only rearranged.** -/
theorem ofList_perm {entries : List (String × β)} (h : (keys entries).Nodup) :
    (ofList entries).Perm entries := by
  have hperm := foldl_insert_perm (m := []) h (fun _ _ hmem => nomatch hmem)
  rwa [List.append_nil] at hperm

/-- A map built from a list has ascending keys, in whatever order the list gives them. -/
theorem ascending_ofList (entries : List (String × β)) : (ofList entries).Ascending := by
  suffices hfold : ∀ m : KeyMap β, m.Ascending →
      (entries.foldl (fun m e => m.insert e.1 e.2) m).Ascending from hfold [] ascending_nil
  induction entries with
  | nil => exact fun m hm => hm
  | cons e entries ih => exact fun m hm => ih (m.insert e.1 e.2) (hm.insert e.1 e.2)

/-- A map with ascending keys has every key once. -/
theorem Ascending.nodup_keys {m : KeyMap β} (h : m.Ascending) : m.keys.Nodup :=
  List.pairwise_map.mpr (h.imp ne_of_lt)

/-- A map that ascends already stays as it is. -/
theorem ofList_eq_self {m : KeyMap β} (h : m.Ascending) : ofList m = m := by
  refine List.Perm.eq_of_pairwise ?_ (ascending_ofList m) h (ofList_perm h.nodup_keys)
  intro a b _ _ hab hba
  exact absurd (lt_trans hab hba) (lt_irrefl a.1)

/-! ## Extensionality -/

/-- **An ascending map is its look-up function.** The first keys agree because either one,
if smaller, would be missing in the other map. -/
theorem eq_of_find?_eq {m n : KeyMap β} (hm : m.Ascending) (hn : n.Ascending)
    (h : ∀ key, m.find? key = n.find? key) : m = n := by
  induction m generalizing n with
  | nil =>
    cases n with
    | nil => rfl
    | cons f n =>
      obtain ⟨l, w⟩ := f
      have hl := h l
      simp at hl
  | cons e m ih =>
    obtain ⟨k, v⟩ := e
    cases n with
    | nil =>
      have hk := h k
      simp at hk
    | cons f n =>
      obtain ⟨l, w⟩ := f
      have hkeys : ∀ key, key ∈ keys ((k, v) :: m) ↔ key ∈ keys ((l, w) :: n) := by
        intro key
        rw [← find?_isSome_iff, ← find?_isSome_iff, h key]
      -- each first key occurs in the other map; were they different, each would be the smaller
      have hkl : k = l := by
        rcases List.mem_cons.mp ((hkeys k).mp List.mem_cons_self) with heq | hk
        · exact heq
        rcases List.mem_cons.mp ((hkeys l).mpr List.mem_cons_self) with heq | hl
        · exact heq.symm
        have h₁ : l < k := (ascending_cons.mp hn).1 k hk
        have h₂ : k < l := (ascending_cons.mp hm).1 l hl
        exact absurd (lt_trans h₁ h₂) (lt_irrefl l)
      subst hkl
      have hvw : v = w := by simpa using h k
      subst hvw
      have htail : m = n := by
        refine ih (ascending_cons.mp hm).2 (ascending_cons.mp hn).2 ?_
        intro key
        -- the common first key occurs in neither rest
        by_cases hk : k = key
        · rw [← hk, hm.find?_tail, hn.find?_tail]
        · simpa [hk] using h key
      rw [htail]

end KeyMap

end ProtoSchema
