/-
Nulls below the top of option values.

Decoding drops every null inside a value, so a setting is null as a whole or has no null at all.
Its path is unfolded only afterwards, and unfolding puts a null inside a mapping, where nothing
drops it any more. So the options of a lowered file have nulls below the top exactly if a null
setting that has a path is left by all later ones of its name (`lowered_nulls_on_top_iff`). This is
the only way: merging adds no nulls of its own, and what it puts into a sequence never holds one.
-/
import ProtoSchema.Proofs.Option.Independence
import ProtoSchema.Proofs.Schema.Compiling

set_option autoImplicit false

namespace ProtoSchema

/-! ## Merged options -/

namespace OptionMerge

open Schema (OptionSetting)

variable {settings : List OptionSetting}

/-- A value that holds a null is listed as it is: it is no sequence, for the value of a name is
either null or has its nulls inside mappings. -/
theorem assignments_of_hasNull (hs : ∀ s ∈ settings, Plain s) {name : String} {m : OptionValue}
    (hm : (accumulate settings).find? name = some m) (hn : m.hasNull = true) :
    assignments name m = [{ name, value := m }] := by
  refine assignments_of_not_sequence name ?_
  rintro items rfl
  obtain ⟨hnull, -⟩ :=
    (walk_accumulate_eq_reached hs hm rfl hn).mp (OptionValue.walk_nil (.sequence items))
  cases hnull

/-- **Where merged options hold nulls.** What is no mapping and holds a null is itself a null, and
the options of a name have one exactly at the keys at which a null is left. -/
theorem exists_walk_mergeOptions_iff (hs : ∀ s ∈ settings, Plain s) {name : String}
    {keys : List String} {x : OptionValue} (hx : x.isMapping = false) (hn : x.hasNull = true) :
    (∃ o ∈ mergeOptions settings, o.name = name ∧ o.value.walk keys = .reached x) ↔
      x = .null ∧ LeavesNullAt name keys settings := by
  constructor
  · rintro ⟨o, ho, rfl, hw⟩
    obtain ⟨name, m, hm, hom⟩ := mem_mergeOptions.mp ho
    have hmn : m.hasNull = true :=
      (exists_hasNull_assignments_iff name m).mp ⟨o, hom, OptionValue.hasNull_of_walk hw hn⟩
    -- a value with a null is no sequence, so it is assigned as a whole
    rw [assignments_of_hasNull hs hm hmn, List.mem_singleton] at hom
    subst hom
    exact (walk_accumulate_eq_reached hs hm hx hn).mp hw
  · intro hleaves
    obtain ⟨m, hm⟩ := hleaves.2.exists_find?
    have hw := (walk_accumulate_eq_reached hs hm hx hn).mpr hleaves
    refine ⟨{ name, value := m }, mem_mergeOptions.mpr ⟨name, m, hm, ?_⟩, rfl, hw⟩
    rw [assignments_of_hasNull hs hm (OptionValue.hasNull_of_walk hw hn)]
    exact List.mem_singleton_self _

/-- **Merged options are null or free of nulls** exactly if no null is left below the top. -/
theorem mergeOptions_nulls_on_top_iff (hs : ∀ s ∈ settings, Plain s) :
    (∀ o ∈ mergeOptions settings, o.value = .null ∨ o.value.hasNull = false) ↔
      ∀ name keys, LeavesNullAt name keys settings → keys = [] := by
  constructor
  · intro htop name keys hleaves
    obtain ⟨o, ho, -, hw⟩ := (exists_walk_mergeOptions_iff hs rfl rfl).mpr ⟨rfl, hleaves⟩
    have hnull : o.value = .null := by
      refine (htop o ho).resolve_right ?_
      rw [OptionValue.hasNull_of_walk hw rfl]
      exact Bool.noConfusion
    -- a null has nothing inside that further keys could reach
    cases keys with
    | nil => rfl
    | cons key keys =>
      rw [hnull, OptionValue.walk_cons_of_not_mapping rfl] at hw
      cases hw
  · intro htop o ho
    by_cases hn : o.value.hasNull = true
    · left
      obtain ⟨name, m, hm, hom⟩ := mem_mergeOptions.mp ho
      have hmn := (exists_hasNull_assignments_iff name m).mp ⟨o, hom, hn⟩
      rw [assignments_of_hasNull hs hm hmn, List.mem_singleton] at hom
      subst hom
      -- the null of the whole value is reached by some keys, of which there are none
      obtain ⟨keys, x, hw, hx, hxn⟩ :=
        OptionValue.exists_walk_of_hasNull (sorted_accumulate hs hm) hmn
      obtain ⟨rfl, hleaves⟩ := (walk_accumulate_eq_reached hs hm hx hxn).mp hw
      rw [htop name keys hleaves, OptionValue.walk_nil] at hw
      cases hw
      rfl
    · right
      rwa [Bool.not_eq_true] at hn

end OptionMerge

/-! ## Lowered files -/

/-- **The options that a file sets**: its own, and those of its declarations at any depth. -/
def ProtoFile.Sets (f : ProtoFile) (o : OptionAssignment) : Prop :=
  o ∈ f.options ∨ ∃ d ∈ Declaration.preorderAll f.declarations, o ∈ d.head.options

namespace Schema

theorem sets_iff_mem_assignmentsOf {f : ProtoFile} {o : OptionAssignment} :
    f.Sets o ↔ o ∈ assignmentsOf f.written := by
  simp only [assignmentsOf, List.mem_map, Prod.exists, exists_eq_right, ProtoFile.mem_written,
    ProtoFile.Sets]
  constructor
  · rintro (ho | ⟨d, hd, ho⟩)
    · exact ⟨.long, .inl ⟨rfl, ho⟩⟩
    · exact ⟨d.form, .inr ⟨d, hd, rfl, ho⟩⟩
  · rintro ⟨form, ⟨-, ho⟩ | ⟨d, hd, -, ho⟩⟩
    · exact .inl ho
    · exact .inr ⟨d, hd, ho⟩

namespace File

/-- What a lowered file sets are the merged settings of the parts of its document. -/
theorem sets_lower_iff {f : File} {file : ProtoFile} (h : f.lower = .ok file)
    {o : OptionAssignment} :
    file.Sets o ↔ ∃ p ∈ f.parts everywhere, o ∈ mergeOptions p.settings := by
  rw [sets_iff_mem_assignmentsOf, written_lower h, mergedOptions, List.mem_flatMap]

/-- **Nulls in the options of a lowered file.** Whatever in such an option is no mapping and holds
a null is itself a null, so sequences hold none, and the keys that lead to it are the path of a
null setting of that option which no later setting touches. So all options are null as a whole or
free of nulls exactly if only null settings without a path are left. -/
theorem lowered_nulls_on_top_iff {v : Json} {f : File} {file : ProtoFile} (hv : v.Sorted)
    (hf : ofJson v = .ok f) (hlower : f.lower = .ok file) :
    (∀ o, file.Sets o → ∀ (keys : List String) (x : OptionValue),
      o.value.walk keys = .reached x → x.isMapping = false → x.hasNull = true →
      x = .null ∧ ∃ p ∈ f.parts everywhere, OptionMerge.LeavesNullAt o.name keys p.settings) ∧
    ((∀ o, file.Sets o → o.value = .null ∨ o.value.hasNull = false) ↔
      ∀ p ∈ f.parts everywhere, ∀ name keys,
        OptionMerge.LeavesNullAt name keys p.settings → keys = []) := by
  -- decoded values have nulls on top only; paths are what can bury them
  have hplain := plain_of_ofJson hv hf
  simp only [sets_lower_iff hlower]
  constructor
  · rintro o ⟨p, hp, ho⟩ keys x hw hx hn
    obtain ⟨hnull, hleaves⟩ :=
      (OptionMerge.exists_walk_mergeOptions_iff (hplain p hp) hx hn).mp ⟨o, ho, rfl, hw⟩
    exact ⟨hnull, p, hp, hleaves⟩
  · have htop := fun p hp => OptionMerge.mergeOptions_nulls_on_top_iff (hplain p hp)
    constructor
    · intro hall p hp
      exact (htop p hp).mp fun o ho => hall o ⟨p, hp, ho⟩
    · rintro hall o ⟨p, hp, ho⟩
      exact (htop p hp).mpr (hall p hp) o ho

/-- A lowered file that sets nothing but the option `o`. -/
def fileSetting (value : OptionValue) : ProtoFile :=
  { options := [{ name := "o", value }] }

/-- After a setting of `a` no null is left of an earlier one at `a.b`; after a setting of `a.c` the
null is left where its path leads. -/
theorem lowered_nulls_on_top_twice :
    (lower { options := twiceSettings "a" } = .ok (fileSetting (.mapping [("a", .bool true)])) ∧
      ∀ p ∈ parts everywhere { options := twiceSettings "a" }, ∀ name keys,
        OptionMerge.LeavesNullAt name keys p.settings → keys = []) ∧
    lower { options := twiceSettings "a.c" } =
      .ok (fileSetting (.mapping [("a", .mapping [("b", .null), ("c", .bool true)])])) ∧
    ∃ p ∈ parts everywhere { options := twiceSettings "a.c" },
      OptionMerge.LeavesNullAt "o" ["a", "b"] p.settings := by
  have hreplaced :
      lower { options := twiceSettings "a" } = .ok (fileSetting (.mapping [("a", .bool true)])) :=
    rfl
  have hburied : lower { options := twiceSettings "a.c" } =
      .ok (fileSetting (.mapping [("a", .mapping [("b", .null), ("c", .bool true)])])) := rfl
  refine ⟨⟨hreplaced, ?_⟩, hburied, ?_⟩
  · refine (lowered_nulls_on_top_iff (sorted_twice "a") rfl hreplaced).2.mp ?_
    rintro o (ho | ⟨d, hd, -⟩)
    · rw [List.mem_singleton.mp ho]
      exact .inr rfl
    · cases hd
  · exact ((lowered_nulls_on_top_iff (sorted_twice "a.c") rfl hburied).1 _
      (.inl (List.mem_singleton_self _)) ["a", "b"] .null rfl rfl rfl).2

/-- **A null below the top**: beside a setting of `a.c` the null at `a.b` stays in the mapping that
its path makes, although decoding drops a null that a document writes in such a place. -/
theorem null_is_buried_twice :
    ofJson (twice "a.c") = .ok { options := twiceSettings "a.c" } ∧
    ∃ file, lower { options := twiceSettings "a.c" } = .ok file ∧
      ∃ o, file.Sets o ∧
        o.value = .mapping [("a", .mapping [("b", .null), ("c", .bool true)])] ∧
        ¬ (o.value = .null ∨ o.value.hasNull = false) := by
  refine ⟨rfl, fileSetting (.mapping [("a", .mapping [("b", .null), ("c", .bool true)])]), rfl,
    { name := "o", value := _ }, .inl (List.mem_singleton_self _), rfl, ?_⟩
  rintro (h | h) <;> cases h

end File

end Schema

end ProtoSchema
