/-
When merging leaves a null.

A null that a setting puts somewhere need not be there in the end: a later setting of the same
name may replace it or a value around it. It stays exactly if the path of its setting is absent
in every later value of the name (`LeavesNull`). This is the law of the last writer for nulls;
what has to be added is that in a merged value every null can be reached by a path. The values
themselves are null or free of nulls, so a null in a merged value was put there by a path, and
never stands inside a sequence.
-/
import ProtoSchema.Proofs.Option.Groups
import ProtoSchema.Proofs.OptionValue.Nulls

set_option autoImplicit false

namespace ProtoSchema

namespace OptionValue

/-! ## Merged values are sorted -/

theorem sortedEntries_iff {entries : List (String × OptionValue)} :
    SortedEntries entries ↔ ∀ e ∈ entries, e.2.Sorted := by
  induction entries with
  | nil => simp [SortedEntries]
  | cons e entries ih =>
    obtain ⟨key, v⟩ := e
    rw [SortedEntries, ih, List.forall_mem_cons]

/-- A sorted value can be put under any key. -/
theorem SortedEntries.insert {entries : List (String × OptionValue)} (h : SortedEntries entries)
    (key : String) {v : OptionValue} (hv : v.Sorted) :
    SortedEntries (KeyMap.insert entries key v) := by
  rw [sortedEntries_iff] at h ⊢
  intro e he
  rcases KeyMap.mem_insert he with rfl | hmem
  · exact hv
  · exact h e hmem

mutual

/-- **Sorted values stay sorted** when one is laid over the other. -/
theorem Sorted.overlay : ∀ {a b : OptionValue}, a.Sorted → b.Sorted → (a.overlay b).Sorted
  | a, .mapping right, ha, hb => by
    cases ham : a.isMapping with
    | false =>
      rw [overlay_of_not_mapping_left ham]
      exact hb
    | true =>
      obtain ⟨left, rfl⟩ := isMapping_iff.mp ham
      exact sorted_overlayEntries ha.1 ha.2 hb.2
  | a, .null, _, hb | a, .bool _, _, hb | a, .number _, _, hb | a, .string _, _, hb
  | a, .bytes _, _, hb | a, .enumLiteral _, _, hb | a, .sequence _, _, hb => by
    rw [overlay_of_not_mapping_right a rfl]
    exact hb

theorem sorted_overlayEntries : ∀ {left right : List (String × OptionValue)},
    KeyMap.Ascending left → SortedEntries left → SortedEntries right →
    (mapping (overlayEntries left right)).Sorted
  | left, [], hasc, hleft, _ => by
    rw [overlayEntries]
    exact ⟨hasc, hleft⟩
  | left, (key, later) :: rest, hasc, hleft, hright => by
    -- what comes to stand at the key is the later value, laid over the earlier one if there is one
    have hvalue : (overlayAt (KeyMap.find? left key) later).Sorted := by
      cases hf : KeyMap.find? left key with
      | none => exact hright.1
      | some earlier => exact (hleft.find? hf).overlay hright.1
    rw [overlayEntries]
    refine sorted_overlayEntries (hasc.insert _ _) (hleft.insert key ?_) hright.2
    cases hf : KeyMap.find? left key <;> simpa only [hf, overlayAt] using hvalue

end

/-- So do any number of values laid over each other. -/
theorem sorted_overlayAll {vs : List OptionValue} (hs : ∀ v ∈ vs, v.Sorted) {m : OptionValue}
    (hm : overlayAll vs = some m) : m.Sorted := by
  induction vs using List.reverseRecOn generalizing m with
  | nil => cases hm
  | append_singleton vs v ih =>
    have hv : v.Sorted := hs v (by simp)
    rw [overlayAll_concat, Option.some.injEq] at hm
    subst hm
    cases hvs : overlayAll vs with
    | none => exact hv
    | some a => exact (ih (fun w hw => hs w (by simp [hw])) hvs).overlay hv

/-! ## Nulls at the end of paths -/

/-- What a path reaches is a part of the value. -/
theorem hasNull_of_walk {v x : OptionValue} {p : List String} (h : v.walk p = .reached x)
    (hx : x.hasNull = true) : v.hasNull = true := by
  induction p generalizing v with
  | nil =>
    rw [walk_nil] at h
    cases h
    exact hx
  | cons key keys ih =>
    cases hvm : v.isMapping with
    | false =>
      -- a path goes on in mappings only
      rw [walk_cons_of_not_mapping hvm] at h
      cases h
    | true =>
      obtain ⟨entries, rfl⟩ := isMapping_iff.mp hvm
      rw [walk_mapping_cons] at h
      cases hf : KeyMap.find? entries key with
      | none =>
        rw [hf] at h
        cases h
      | some w =>
        rw [hf] at h
        rw [hasNull, entriesHaveNull_eq_any, List.any_eq_true]
        exact ⟨(key, w), KeyMap.find?_mem hf, ih h⟩

mutual

/-- A null in a sorted value lies in something that a path reaches and that is no mapping. -/
theorem exists_walk_of_hasNull : ∀ {v : OptionValue}, v.Sorted → v.hasNull = true →
    ∃ p x, v.walk p = .reached x ∧ x.isMapping = false ∧ x.hasNull = true
  | .mapping entries, hs, hn => by
    obtain ⟨key, w, hmem, p, x, hw, hx⟩ := exists_walk_of_entriesHaveNull hs.2 hn
    refine ⟨key :: p, x, ?_, hx⟩
    rw [walk_mapping_cons, hs.1.find?_of_mem hmem]
    exact hw
  | .null, _, hn | .bool _, _, hn | .number _, _, hn | .string _, _, hn | .bytes _, _, hn
  | .enumLiteral _, _, hn | .sequence _, _, hn => ⟨[], _, rfl, rfl, hn⟩

/-- A null among entries is found by a path from one of them. -/
theorem exists_walk_of_entriesHaveNull : ∀ {entries : List (String × OptionValue)},
    SortedEntries entries → entriesHaveNull entries = true →
    ∃ key w, (key, w) ∈ entries ∧
      ∃ p x, w.walk p = .reached x ∧ x.isMapping = false ∧ x.hasNull = true
  | [], _, hn => by cases hn
  | (key, w) :: rest, hs, hn => by
    rw [entriesHaveNull, Bool.or_eq_true] at hn
    rcases hn with hn | hn
    · exact ⟨key, w, List.mem_cons_self, exists_walk_of_hasNull hs.1 hn⟩
    · obtain ⟨k, u, hmem, h⟩ := exists_walk_of_entriesHaveNull hs.2 hn
      exact ⟨k, u, List.mem_cons_of_mem _ hmem, h⟩

end

end OptionValue

/-! ## Nulls at the end of the path of a setting -/

namespace OptionPath

open OptionValue

/-- The path under which a value was nested leads back to the value. -/
theorem walk_nest (keys : List String) (v : OptionValue) : (nest keys v).walk keys = .reached v := by
  induction keys with
  | nil => exact walk_nil v
  | cons key keys ih =>
    show (mapping [(key, nest keys v)]).walk (key :: keys) = _
    rw [walk_mapping_cons, KeyMap.find?_cons, if_pos rfl]
    exact ih

/-- Nesting a value under a path adds no null. -/
theorem hasNull_nest (keys : List String) (v : OptionValue) :
    (nest keys v).hasNull = v.hasNull := by
  induction keys with
  | nil => rfl
  | cons key keys ih =>
    show ((nest keys v).hasNull || false) = v.hasNull
    rw [Bool.or_false, ih]

/-- Around a scalar a path builds nothing but the way to it. -/
theorem walk_nest_eq_reached {keys p : List String} {v x : OptionValue}
    (hv : v.isMapping = false) (hx : x.isMapping = false)
    (h : (nest keys v).walk p = .reached x) : p = keys ∧ x = v := by
  induction keys generalizing p with
  | nil =>
    cases p with
    | nil =>
      have hreached : v.walk [] = .reached x := h
      rw [walk_nil] at hreached
      cases hreached
      exact ⟨rfl, rfl⟩
    | cons k p =>
      have hreached : v.walk (k :: p) = .reached x := h
      rw [walk_cons_of_not_mapping hv] at hreached
      cases hreached
  | cons key keys ih =>
    have hreached : (mapping [(key, nest keys v)]).walk p = .reached x := h
    cases p with
    | nil =>
      rw [walk_nil] at hreached
      cases hreached
      cases hx
    | cons k p =>
      -- the mapping around the rest has one key, which the path has to take
      rw [walk_mapping_cons, KeyMap.find?_cons, KeyMap.find?_nil] at hreached
      by_cases hk : key = k
      · rw [if_pos hk] at hreached
        obtain ⟨rfl, rfl⟩ := ih hreached
        rw [hk]
        exact ⟨rfl, rfl⟩
      · rw [if_neg hk] at hreached
        cases hreached

end OptionPath

namespace OptionMerge

open Schema (OptionSetting)

/-- A setting as a document gives it: a sorted value that is null or free of nulls. -/
structure Plain (s : OptionSetting) : Prop where
  sorted : s.value.Sorted
  nulls : s.value = .null ∨ s.value.hasNull = false

/-- **A null that no later setting touches.** Some setting is null, and its path is absent in
the values of all later settings of the same name. -/
def LeavesNull (settings : List OptionSetting) : Prop :=
  ∃ before s after, settings = before ++ s :: after ∧ s.value = .null ∧
    ∀ t ∈ after, t.extension.fullName = s.extension.fullName →
      (expanded t).walk (OptionPath.segments s.path) = .absent

/-- The values of a name, said of its settings. -/
theorem thenOnly_valuesOf {P Q : OptionValue → Prop} (name : String)
    (settings : List OptionSetting) :
    ThenOnly P Q (valuesOf name settings) ↔
      ThenOnly (fun s => s.extension.fullName = name ∧ P (expanded s))
        (fun t => t.extension.fullName = name → Q (expanded t)) settings := by
  induction settings using List.reverseRecOn with
  | nil => exact iff_of_false not_thenOnly_nil not_thenOnly_nil
  | append_singleton settings s ih =>
    rw [valuesOf_concat, thenOnly_concat, ← ih]
    by_cases h : s.extension.fullName = name
    · rw [if_pos h, thenOnly_concat]
      simp [h]
    · rw [if_neg h, List.append_nil]
      simp [h]

/-- What a setting puts at a path, if it is no mapping and holds a null, is the setting's own
null at its own path. -/
theorem Plain.eq_null_of_walk {s : OptionSetting} (hs : Plain s) {p : List String}
    {x : OptionValue} (hw : (expanded s).walk p = .reached x) (hx : x.isMapping = false)
    (hn : x.hasNull = true) : s.value = .null ∧ p = OptionPath.segments s.path ∧ x = .null := by
  have hnull : s.value = .null := by
    rcases hs.nulls with h | h
    · exact h
    · -- a value free of nulls stays so inside the mappings of its path
      have hhas := OptionValue.hasNull_of_walk hw hn
      rw [expanded, OptionPath.expand, OptionPath.hasNull_nest, h] at hhas
      cases hhas
  rw [expanded, OptionPath.expand, hnull] at hw
  obtain ⟨hp, rfl⟩ := OptionPath.walk_nest_eq_reached rfl hx hw
  exact ⟨hnull, hp, rfl⟩

/-- The value of a name is sorted. -/
theorem sorted_accumulate {settings : List OptionSetting} (hs : ∀ s ∈ settings, Plain s)
    {name : String} {m : OptionValue} (hm : (accumulate settings).find? name = some m) :
    m.Sorted := by
  rw [find?_accumulate] at hm
  exact OptionValue.sorted_overlayAll
    (fun v => sorted_of_mem_valuesOf fun s hmem => (hs s hmem).sorted) hm

/-- **A null that is left at some keys** in the value of a name: the keys are the path of a null
setting, and absent in the values of all later settings of the name. -/
def LeavesNullAt (name : String) (keys : List String) (settings : List OptionSetting) : Prop :=
  ThenOnly
    (fun s => s.extension.fullName = name ∧ s.value = .null ∧ OptionPath.segments s.path = keys)
    (fun t => t.extension.fullName = name → (expanded t).walk keys = .absent) settings

/-- A null is left exactly if one is left somewhere in the value of some name. -/
theorem leavesNull_iff (settings : List OptionSetting) :
    LeavesNull settings ↔ ∃ name keys, LeavesNullAt name keys settings := by
  constructor
  · rintro ⟨before, s, after, hsplit, hnull, hafter⟩
    exact ⟨s.extension.fullName, OptionPath.segments s.path, before, s, after, hsplit,
      ⟨rfl, hnull, rfl⟩, hafter⟩
  · rintro ⟨name, keys, before, s, after, hsplit, ⟨rfl, hnull, rfl⟩, hafter⟩
    exact ⟨before, s, after, hsplit, hnull, hafter⟩

/-- A name of which a null is left has a value. -/
theorem LeavesNullAt.exists_find? {name : String} {keys : List String}
    {settings : List OptionSetting} (h : LeavesNullAt name keys settings) :
    ∃ m, (accumulate settings).find? name = some m := by
  obtain ⟨before, s, after, hsplit, ⟨hname, -⟩, -⟩ := h
  have hmem : expanded s ∈ valuesOf name settings :=
    mem_valuesOf.mpr ⟨s, by rw [hsplit]; simp, hname, rfl⟩
  rw [← Option.ne_none_iff_exists', find?_accumulate, Ne, OptionValue.overlayAll_eq_none]
  exact List.ne_nil_of_mem hmem

/-- **Where the value of a name holds a null.** What is no mapping and holds a null is itself a
null, and it is reached by exactly those keys at which a null is left. -/
theorem walk_accumulate_eq_reached {settings : List OptionSetting} (hs : ∀ s ∈ settings, Plain s)
    {name : String} {m : OptionValue} (hm : (accumulate settings).find? name = some m)
    {keys : List String} {x : OptionValue} (hx : x.isMapping = false) (hn : x.hasNull = true) :
    m.walk keys = .reached x ↔ x = .null ∧ LeavesNullAt name keys settings := by
  have hsorted : ∀ v ∈ valuesOf name settings, v.Sorted :=
    fun v => sorted_of_mem_valuesOf fun s hmem => (hs s hmem).sorted
  rw [find?_accumulate] at hm
  have hleaf := OptionValue.at?_overlayAll_leaf hsorted keys hx
  rw [hm, Option.bind_some, OptionValue.at?_eq_some, thenOnly_valuesOf] at hleaf
  rw [hleaf]
  constructor
  · -- the last writer of that place put the null there, and it can only be its own value
    rintro ⟨before, s, after, hsplit, ⟨hname, hw⟩, hafter⟩
    have hmem : s ∈ settings := by rw [hsplit]; simp
    obtain ⟨hnull, hkeys, rfl⟩ := (hs s hmem).eq_null_of_walk hw hx hn
    exact ⟨rfl, before, s, after, hsplit, ⟨hname, hnull, hkeys.symm⟩, hafter⟩
  · rintro ⟨rfl, before, s, after, hsplit, ⟨hname, hnull, rfl⟩, hafter⟩
    refine ⟨before, s, after, hsplit, ⟨hname, ?_⟩, hafter⟩
    rw [expanded, hnull]
    exact OptionPath.walk_nest _ _

/-- **The value of a name holds a null** exactly if one of its settings is null and its path is
absent in all later ones. -/
theorem hasNull_accumulate_iff {settings : List OptionSetting} (hs : ∀ s ∈ settings, Plain s)
    {name : String} {m : OptionValue} (hm : (accumulate settings).find? name = some m) :
    m.hasNull = true ↔ ∃ keys, LeavesNullAt name keys settings := by
  constructor
  · intro hn
    obtain ⟨keys, x, hw, hx, hxn⟩ :=
      OptionValue.exists_walk_of_hasNull (sorted_accumulate hs hm) hn
    exact ⟨keys, ((walk_accumulate_eq_reached hs hm hx hxn).mp hw).2⟩
  · rintro ⟨keys, hleaves⟩
    exact OptionValue.hasNull_of_walk
      ((walk_accumulate_eq_reached hs hm rfl rfl).mpr ⟨rfl, hleaves⟩) rfl

/-! ## Assignments -/

/-- **The merged options** are the assignments of the accumulated values. -/
theorem mem_mergeOptions {settings : List OptionSetting} {o : OptionAssignment} :
    o ∈ mergeOptions settings ↔
      ∃ name m, (accumulate settings).find? name = some m ∧ o ∈ assignments name m := by
  rw [mergeOptions, List.mem_flatMap]
  constructor
  · rintro ⟨⟨name, m⟩, hmem, ho⟩
    exact ⟨name, m, (ascending_accumulate settings).find?_of_mem hmem, ho⟩
  · rintro ⟨name, m, hm, ho⟩
    exact ⟨(name, m), KeyMap.find?_mem hm, ho⟩

/-- Merged options have no paths. -/
theorem path_of_mem_mergeOptions {settings : List OptionSetting} {o : OptionAssignment}
    (h : o ∈ mergeOptions settings) : o.path = "" := by
  obtain ⟨name, m, -, ho⟩ := mem_mergeOptions.mp h
  unfold assignments at ho
  split at ho
  · obtain ⟨item, -, rfl⟩ := List.mem_map.mp ho
    rfl
  · rw [List.mem_singleton] at ho
    rw [ho]

/-- A null survives into an assignment exactly if the merged value has one; taking a sequence apart
loses none. -/
theorem exists_hasNull_assignments_iff (name : String) (m : OptionValue) :
    (∃ o ∈ assignments name m, o.value.hasNull = true) ↔ m.hasNull = true := by
  unfold assignments
  split
  · rename_i items
    simp [OptionValue.hasNull, OptionValue.itemsHaveNull_eq_any]
  · simp

/-- **Merging leaves a null** exactly if some setting is null and no later setting of its name
touches it. -/
theorem exists_hasNull_mergeOptions_iff {settings : List OptionSetting}
    (hs : ∀ s ∈ settings, Plain s) :
    (∃ o ∈ mergeOptions settings, o.value.hasNull = true) ↔ LeavesNull settings := by
  rw [leavesNull_iff]
  constructor
  · rintro ⟨o, ho, hn⟩
    obtain ⟨name, m, hm, hom⟩ := mem_mergeOptions.mp ho
    have hmn := (exists_hasNull_assignments_iff name m).mp ⟨o, hom, hn⟩
    exact ⟨name, (hasNull_accumulate_iff hs hm).mp hmn⟩
  · rintro ⟨name, keys, hleaves⟩
    obtain ⟨m, hm⟩ := hleaves.exists_find?
    have hmn := (hasNull_accumulate_iff hs hm).mpr ⟨keys, hleaves⟩
    obtain ⟨o, hom, hn⟩ := (exists_hasNull_assignments_iff name m).mpr hmn
    exact ⟨o, mem_mergeOptions.mpr ⟨name, m, hm, hom⟩, hn⟩

end OptionMerge

end ProtoSchema
