/-
The last writer wins, key path by key path.

Merging folds the settings of one option into one value, and the same key may turn from a
mapping into a scalar and back any number of times on the way. What the fold leaves at a key
path is nevertheless decided by that path alone. Walking a path through a value ends in one of
three ways (`Landing`): it reaches a value, it stops at a mapping that lacks the next key, or
it is blocked by something that is not a mapping. Laying one value over another acts on what
stands at the path (`at?_overlay`):

* where the later value is reached, it is laid over what stood there;
* where the later value is absent, what stood there shows through;
* where the later value is blocked, nothing is left.

The law for a list of settings follows by induction on the list from its end.
-/
import Mathlib.Data.List.Induction
import ProtoSchema.Option.Merge
import ProtoSchema.Proofs.OptionValue.Sorted

set_option autoImplicit false

namespace ProtoSchema

namespace OptionValue

/-! ## Walking a path -/

/-- Whether a value is a mapping. -/
def isMapping : OptionValue → Bool
  | .mapping _ => true
  | _ => false

theorem isMapping_iff {v : OptionValue} : v.isMapping = true ↔ ∃ entries, v = .mapping entries := by
  cases v <;> simp [isMapping]

/-- **Where a path ends in a value.** -/
inductive Landing where
  /-- The path leads to a value. -/
  | reached (v : OptionValue)
  /-- A mapping on the way lacks the next key. -/
  | absent
  /-- Something on the way is not a mapping. -/
  | blocked

/-- **Walks a path of keys through a value.** -/
def walk : OptionValue → List String → Landing
  | v, [] => .reached v
  | .mapping entries, key :: keys =>
    match KeyMap.find? entries key with
    | some v => walk v keys
    | none => .absent
  | _, _ :: _ => .blocked

@[simp] theorem walk_nil (v : OptionValue) : v.walk [] = .reached v := by
  cases v <;> rfl

/-- A walk goes on in the entry of its first key. -/
theorem walk_mapping_cons (entries : List (String × OptionValue)) (key : String)
    (keys : List String) :
    (mapping entries).walk (key :: keys) =
      match KeyMap.find? entries key with
      | some v => v.walk keys
      | none => .absent := rfl

/-- It is blocked by what is no mapping. -/
theorem walk_cons_of_not_mapping {v : OptionValue} (h : v.isMapping = false) (key : String)
    (keys : List String) : v.walk (key :: keys) = .blocked := by
  rw [walk]
  rintro entries rfl
  cases h

/-- The value that a path leads to, if it leads to one. -/
def Landing.value? : Landing → Option OptionValue
  | .reached v => some v
  | _ => none

/-- Only a walk that reaches a value has one. -/
theorem Landing.value?_eq_some {l : Landing} {v : OptionValue} :
    l.value? = some v ↔ l = .reached v := by
  cases l <;> simp [Landing.value?]

/-- The value at a path. -/
def at? (v : OptionValue) (p : List String) : Option OptionValue := (v.walk p).value?

theorem at?_eq_some {v w : OptionValue} {p : List String} :
    v.at? p = some w ↔ v.walk p = .reached w := Landing.value?_eq_some

/-! ## One value over another -/

/-- What is no mapping is replaced. -/
theorem overlay_of_not_mapping_left {a : OptionValue} (h : a.isMapping = false)
    (b : OptionValue) : a.overlay b = b := by
  rw [overlay]
  rintro left right rfl -
  cases h

/-- What is no mapping replaces everything. -/
theorem overlay_of_not_mapping_right (a : OptionValue) {b : OptionValue}
    (h : b.isMapping = false) : a.overlay b = b := by
  rw [overlay]
  rintro left right - rfl
  cases h

/-- The later value says whether the result is a mapping. -/
theorem isMapping_overlay (a b : OptionValue) : (a.overlay b).isMapping = b.isMapping := by
  cases hb : b.isMapping with
  | false => rw [overlay_of_not_mapping_right a hb, hb]
  | true =>
    cases ha : a.isMapping with
    | false => rw [overlay_of_not_mapping_left ha, hb]
    | true =>
      obtain ⟨left, rfl⟩ := isMapping_iff.mp ha
      obtain ⟨right, rfl⟩ := isMapping_iff.mp hb
      rfl

/-- What stands somewhere after a value was laid over what stood there. -/
def overlayAt : Option OptionValue → OptionValue → OptionValue
  | some earlier, later => earlier.overlay later
  | none, later => later

/-- A value laid over another is a mapping exactly if the later one is. -/
theorem isMapping_overlayAt (a : Option OptionValue) (b : OptionValue) :
    (overlayAt a b).isMapping = b.isMapping := by
  cases a with
  | none => rfl
  | some a => exact isMapping_overlay a b

/-- A leaf replaces what is there, if anything is. -/
theorem overlayAt_of_not_mapping (a : Option OptionValue) {b : OptionValue}
    (h : b.isMapping = false) : overlayAt a b = b := by
  cases a with
  | none => rfl
  | some a => exact overlay_of_not_mapping_right a h

/-- The later entries are laid over one after the other. Since their keys ascend, each key is
touched once, so what happens at a key depends on the two entries of that key alone. -/
theorem find?_overlayEntries {left right : List (String × OptionValue)}
    (h : KeyMap.Ascending right) (key : String) :
    KeyMap.find? (overlayEntries left right) key =
      match KeyMap.find? right key with
      | some later => some (overlayAt (KeyMap.find? left key) later)
      | none => KeyMap.find? left key := by
  induction right generalizing left with
  | nil => rw [overlayEntries, KeyMap.find?_nil]
  | cons e right ih =>
    obtain ⟨k, later⟩ := e
    rw [overlayEntries, ih (KeyMap.ascending_cons.mp h).2, KeyMap.find?_insert,
      KeyMap.find?_cons]
    by_cases hk : k = key
    · -- the first entry is the only one with this key, so the others leave its result alone
      subst hk
      rw [if_pos rfl, if_pos rfl, h.find?_tail]
      cases KeyMap.find? left k <;> rfl
    · rw [if_neg hk, if_neg hk]

/-- **What stands at a path** after a value was laid over, from what stood there and where the
path ends in the later value. -/
def Landing.after (earlier : Option OptionValue) : Landing → Option OptionValue
  | .reached later => some (overlayAt earlier later)
  | .absent => earlier
  | .blocked => none

/-- Nothing comes after a walk that no other writer follows. -/
theorem Landing.after_none (l : Landing) : l.after none = l.value? := by
  cases l <;> rfl

/-- **Laying a value over another acts path by path.** -/
theorem at?_overlay (a : OptionValue) {b : OptionValue} (hb : b.Sorted) (p : List String) :
    (a.overlay b).at? p = (b.walk p).after (a.at? p) := by
  induction p generalizing a b with
  | nil => simp only [at?, walk_nil, Landing.value?, Landing.after, overlayAt]
  | cons key keys ih =>
    cases hbm : b.isMapping with
    | false =>
      -- a scalar replaces everything, and nothing stands below it
      rw [overlay_of_not_mapping_right a hbm, at?, walk_cons_of_not_mapping hbm]
      rfl
    | true =>
      cases ham : a.isMapping with
      | false =>
        -- a mapping replaces a scalar, below which nothing stood
        rw [overlay_of_not_mapping_left ham, at?, at?, walk_cons_of_not_mapping ham]
        exact (Landing.after_none _).symm
      | true =>
        -- both are mappings: the walk takes one step in each, and the rest is the induction
        obtain ⟨left, rfl⟩ := isMapping_iff.mp ham
        obtain ⟨right, rfl⟩ := isMapping_iff.mp hbm
        obtain ⟨hasc, hentries⟩ := hb
        rw [overlay, at?, at?, walk_mapping_cons, walk_mapping_cons, walk_mapping_cons,
          find?_overlayEntries hasc]
        cases hr : KeyMap.find? right key with
        | none => rfl
        | some r =>
          cases hl : KeyMap.find? left key with
          | none => exact (Landing.after_none _).symm
          | some l => exact ih l (hentries.find? hr)

/-! ## Many values over each other -/

/-- The values of a list laid over each other, the first at the bottom. -/
def overlayAll (vs : List OptionValue) : Option OptionValue :=
  vs.foldl (fun earlier later => some (overlayAt earlier later)) none

@[simp] theorem overlayAll_nil : overlayAll [] = none := rfl

/-- The last value is laid over all before it. -/
@[simp] theorem overlayAll_concat (vs : List OptionValue) (v : OptionValue) :
    overlayAll (vs ++ [v]) = some (overlayAt (overlayAll vs) v) := by
  simp only [overlayAll, List.foldl_append, List.foldl_cons, List.foldl_nil]

theorem overlayAll_eq_none {vs : List OptionValue} : overlayAll vs = none ↔ vs = [] := by
  induction vs using List.reverseRecOn with
  | nil => simp
  | append_singleton vs v _ => simp

/-- What stands at a path of the whole, one more value later. -/
theorem at?_overlayAt (a : Option OptionValue) {b : OptionValue} (hb : b.Sorted)
    (p : List String) : (overlayAt a b).at? p = (b.walk p).after (a.bind fun v => v.at? p) := by
  cases a with
  | none => exact (Landing.after_none _).symm
  | some a => exact at?_overlay a hb p

end OptionValue

/-- **Some element has `P`, and every later one has `Q`.** -/
def ThenOnly {α : Type} (P Q : α → Prop) (xs : List α) : Prop :=
  ∃ before x after, xs = before ++ x :: after ∧ P x ∧ ∀ y ∈ after, Q y

section ThenOnly

variable {α : Type} {P Q : α → Prop}

theorem not_thenOnly_nil : ¬ ThenOnly P Q [] := by
  rintro ⟨before, x, after, h, -⟩
  simp at h

/-- **The last element decides**: it is the one looked for, or it is passed over and one before it
is. -/
theorem thenOnly_concat (xs : List α) (x : α) :
    ThenOnly P Q (xs ++ [x]) ↔ P x ∨ (Q x ∧ ThenOnly P Q xs) := by
  constructor
  · rintro ⟨before, y, after, h, hy, hafter⟩
    -- either nothing comes after `y`, and it is the added element, or the added element is last
    rcases List.eq_nil_or_concat after with rfl | ⟨after', z, rfl⟩
    · obtain ⟨-, rfl⟩ : xs = before ∧ x = y := by simpa using h
      exact .inl hy
    · have h' : xs ++ [x] = (before ++ y :: after') ++ [z] := by simpa using h
      obtain ⟨rfl, hz⟩ := List.append_inj' h' rfl
      cases hz
      refine .inr ⟨hafter x (by simp), before, y, after', rfl, hy, ?_⟩
      intro w hw
      exact hafter w (by simp [hw])
  · rintro (hx | ⟨hx, before, y, after, rfl, hy, hafter⟩)
    · exact ⟨xs, x, [], rfl, hx, by simp⟩
    · refine ⟨before, y, after ++ [x], by simp, hy, ?_⟩
      intro w hw
      rcases List.mem_append.mp hw with h | h
      · exact hafter w h
      · rw [List.mem_singleton.mp h]
        exact hx

end ThenOnly

namespace OptionValue

/-- **A scalar stands at a path** if some value sets it there and the path is absent in all
later values. -/
theorem at?_overlayAll_leaf {vs : List OptionValue} (hs : ∀ v ∈ vs, v.Sorted) (p : List String)
    {x : OptionValue} (hx : x.isMapping = false) :
    ((overlayAll vs).bind fun m => m.at? p) = some x ↔
      ThenOnly (fun v => v.walk p = .reached x) (fun v => v.walk p = .absent) vs := by
  induction vs using List.reverseRecOn with
  | nil => simp [not_thenOnly_nil]
  | append_singleton vs v ih =>
    have hv : v.Sorted := hs v (by simp)
    rw [thenOnly_concat, ← ih fun w hw => hs w (by simp [hw]), overlayAll_concat,
      Option.bind_some, at?_overlayAt _ hv]
    generalize ((overlayAll vs).bind fun m => m.at? p) = earlier
    cases v.walk p with
    | absent => simp [Landing.after]
    | blocked => simp [Landing.after]
    | reached y =>
      -- only the last value counts: a scalar comes out of an overlay only if it went in on top
      simp only [Landing.after, Option.some.injEq, Landing.reached.injEq, reduceCtorEq,
        false_and, or_false]
      constructor
      · intro h
        have hy : y.isMapping = false := by rw [← isMapping_overlayAt earlier y, h, hx]
        rw [← h, overlayAt_of_not_mapping _ hy]
      · rintro rfl
        exact overlayAt_of_not_mapping _ hx

/-- **A mapping stands at a path** if some value has one there and no later value is blocked
there or has something else. -/
theorem at?_overlayAll_mapping {vs : List OptionValue} (hs : ∀ v ∈ vs, v.Sorted)
    (p : List String) :
    (∃ m, m.isMapping = true ∧ ((overlayAll vs).bind fun m => m.at? p) = some m) ↔
      ThenOnly (fun v => ∃ m, m.isMapping = true ∧ v.walk p = .reached m)
        (fun v => v.walk p ≠ .blocked ∧ ∀ x, x.isMapping = false → v.walk p ≠ .reached x) vs := by
  induction vs using List.reverseRecOn with
  | nil => simp [not_thenOnly_nil]
  | append_singleton vs v ih =>
    have hv : v.Sorted := hs v (by simp)
    rw [thenOnly_concat, ← ih fun w hw => hs w (by simp [hw]), overlayAll_concat,
      Option.bind_some, at?_overlayAt _ hv]
    generalize ((overlayAll vs).bind fun m => m.at? p) = earlier
    cases v.walk p with
    | absent => simp [Landing.after]
    | blocked => simp [Landing.after]
    | reached y =>
      -- whether a mapping comes out depends on the last value alone
      have hmap : (overlayAt earlier y).isMapping = y.isMapping := isMapping_overlayAt earlier y
      cases hy : y.isMapping with
      | true =>
        rw [hy] at hmap
        exact iff_of_true ⟨_, hmap, rfl⟩ (.inl ⟨y, hy, rfl⟩)
      | false =>
        rw [hy] at hmap
        refine iff_of_false ?_ ?_
        · rintro ⟨m, hm, h⟩
          simp only [Landing.after, Option.some.injEq] at h
          rw [h, hm] at hmap
          cases hmap
        · rintro (⟨m, hm, h⟩ | ⟨⟨-, h⟩, -⟩)
          · cases h
            rw [hy] at hm
            cases hm
          · exact h y hy rfl

end OptionValue

/-! ## Settings -/

namespace OptionMerge

/-- The settings of one name, in their order. -/
def group (name : String) (settings : List Schema.OptionSetting) : List Schema.OptionSetting :=
  settings.filter fun s => s.extension.fullName == name

/-- The whole values that the settings of one name give it, in their order. -/
def valuesOf (name : String) (settings : List Schema.OptionSetting) : List OptionValue :=
  (group name settings).map expanded

/-- The values of a name are those of the settings that have it, expanded. -/
theorem mem_valuesOf {name : String} {settings : List Schema.OptionSetting} {v : OptionValue} :
    v ∈ valuesOf name settings ↔
      ∃ s ∈ settings, s.extension.fullName = name ∧ expanded s = v := by
  simp [valuesOf, group, and_assoc]

/-- A further setting adds its value to those of its own name, behind the others. -/
theorem valuesOf_concat (name : String) (settings : List Schema.OptionSetting)
    (s : Schema.OptionSetting) :
    valuesOf name (settings ++ [s]) =
      valuesOf name settings ++ if s.extension.fullName = name then [expanded s] else [] := by
  rw [valuesOf, valuesOf, group, List.filter_append, List.map_append, ← group]
  -- what is left is the last setting, which the filter keeps or drops
  congr 1
  by_cases h : s.extension.fullName = name
  · rw [if_pos h, List.filter_cons_of_pos (by simpa using h), List.filter_nil, List.map_singleton]
  · rw [if_neg h, List.filter_cons_of_neg (by simpa using h), List.filter_nil, List.map_nil]

/-- A further setting is one more step on what was accumulated. -/
theorem accumulate_concat (settings : List Schema.OptionSetting) (s : Schema.OptionSetting) :
    accumulate (settings ++ [s]) = step (accumulate settings) s := by
  simp only [accumulate, List.foldl_append, List.foldl_cons, List.foldl_nil]

/-- **One setting changes the value of its own name alone**, and there it is laid over what was
accumulated before. -/
theorem find?_step (values : KeyMap OptionValue) (s : Schema.OptionSetting) (name : String) :
    (step values s).find? name =
      if s.extension.fullName = name then
        some (OptionValue.overlayAt (values.find? name) (expanded s))
      else values.find? name := by
  rw [step, KeyMap.find?_insert]
  by_cases h : s.extension.fullName = name
  · rw [if_pos h, if_pos h, h]
    cases values.find? name <;> rfl
  · rw [if_neg h, if_neg h]

/-- **The value of a name** is that of its own settings laid over each other; the settings of
other names do not matter. -/
theorem find?_accumulate (settings : List Schema.OptionSetting) (name : String) :
    (accumulate settings).find? name = OptionValue.overlayAll (valuesOf name settings) := by
  induction settings using List.reverseRecOn with
  | nil => rfl
  | append_singleton settings s ih =>
    rw [accumulate_concat, find?_step, ih, valuesOf_concat]
    by_cases h : s.extension.fullName = name
    · rw [if_pos h, if_pos h, OptionValue.overlayAll_concat]
    · rw [if_neg h, if_neg h, List.append_nil]

/-- The values of a name are sorted if the settings' values are. -/
theorem sorted_of_mem_valuesOf {settings : List Schema.OptionSetting}
    (hs : ∀ s ∈ settings, s.value.Sorted) {name : String} {v : OptionValue}
    (hv : v ∈ valuesOf name settings) : v.Sorted := by
  obtain ⟨s, hmem, -, rfl⟩ := mem_valuesOf.mp hv
  exact (hs s hmem).expand s.path

/-- **The last writer wins.** A name has a value exactly if it was set. At every path, its
value has a given scalar exactly if some setting puts it there and the path is absent in all
later ones, and a mapping exactly if some setting has one there and no later one is blocked
there or has something else. -/
theorem accumulate_last_writer_wins (settings : List Schema.OptionSetting)
    (hs : ∀ s ∈ settings, s.value.Sorted) (name : String) :
    ((accumulate settings).find? name = none ↔ valuesOf name settings = []) ∧
    ∀ m, (accumulate settings).find? name = some m → ∀ p,
      (∀ x : OptionValue, x.isMapping = false →
        (m.walk p = .reached x ↔
          ThenOnly (fun v => v.walk p = .reached x) (fun v => v.walk p = .absent)
            (valuesOf name settings))) ∧
      ((∃ x : OptionValue, x.isMapping = true ∧ m.walk p = .reached x) ↔
        ThenOnly (fun v => ∃ x : OptionValue, x.isMapping = true ∧ v.walk p = .reached x)
          (fun v => v.walk p ≠ .blocked ∧
            ∀ x : OptionValue, x.isMapping = false → v.walk p ≠ .reached x)
          (valuesOf name settings)) := by
  rw [find?_accumulate]
  refine ⟨OptionValue.overlayAll_eq_none, ?_⟩
  intro m hm p
  -- the two laws of overlaying, at the values of this name
  have hsorted : ∀ v ∈ valuesOf name settings, v.Sorted := fun v => sorted_of_mem_valuesOf hs
  have hleaf := fun (x : OptionValue) (hx : x.isMapping = false) =>
    OptionValue.at?_overlayAll_leaf hsorted p hx
  have hmapping := OptionValue.at?_overlayAll_mapping hsorted p
  simp only [hm, Option.bind_some, OptionValue.at?_eq_some] at hleaf hmapping
  exact ⟨hleaf, hmapping⟩

/-- Settings of one option whose key `a` is a mapping, then a scalar, then a mapping again. -/
def flippingSettings : List Schema.OptionSetting := [
  { extension := .here "o", path := "a.b", value := .bool true },
  { extension := .here "o", path := "a", value := .string "s" },
  { extension := .here "p", path := "a", value := .null },
  { extension := .here "o", path := "a.c", value := .bool false }]

/-- After the scalar, only what was set last is left of the first mapping. -/
theorem last_writer_wins_flipping :
    (∀ s ∈ flippingSettings, s.value.Sorted) ∧
    (accumulate flippingSettings).find? "o" =
      some (.mapping [("a", .mapping [("c", .bool false)])]) ∧
    ThenOnly (fun v => v.walk ["a", "c"] = .reached (.bool false))
      (fun v => v.walk ["a", "c"] = .absent) (valuesOf "o" flippingSettings) ∧
    ¬ ThenOnly (fun v => v.walk ["a", "b"] = .reached (.bool true))
      (fun v => v.walk ["a", "b"] = .absent) (valuesOf "o" flippingSettings) := by
  have hs : ∀ s ∈ flippingSettings, s.value.Sorted := by
    simp [flippingSettings, OptionValue.Sorted]
  have hm : (accumulate flippingSettings).find? "o" =
      some (.mapping [("a", .mapping [("c", .bool false)])]) := rfl
  have law := (accumulate_last_writer_wins flippingSettings hs "o").2 _ hm
  refine ⟨hs, hm, ((law ["a", "c"]).1 (.bool false) rfl).mp rfl, ?_⟩
  -- the first setting is no last writer: its path is blocked in the second one
  intro h
  have hb := ((law ["a", "b"]).1 (.bool true) rfl).mpr h
  cases hb

end OptionMerge

end ProtoSchema
