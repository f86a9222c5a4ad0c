/-
Settings that are made again change nothing.

Laying values over each other is not associative: a scalar between two mappings throws the first
one away. So it is not enough that a value laid over itself stays as it is. The law holds path by
path. Of what stands at a path, look only at its outline: which scalar it is, or that it is a
mapping. A further value then either leaves the outline at a path as it was, or decides it
whatever it was (`Landing.leaves`). A list of values therefore acts on the outline as the identity
or as a constant, and in both cases doing it twice is doing it once. A sorted value is determined
by its outlines at all paths (`eq_of_outlineAt_eq`), so the merged values are equal.
-/
import ProtoSchema.Proofs.Option.Nulls

set_option autoImplicit false

namespace ProtoSchema

namespace OptionValue

/-! ## Outlines -/

/-- **The outline of a value**: a mapping without its entries, and anything else as it is. -/
def outline : OptionValue → OptionValue
  | .mapping _ => .mapping []
  | v => v

/-- Only mappings differ from their outlines. -/
theorem outline_of_not_mapping {v : OptionValue} (h : v.isMapping = false) : v.outline = v := by
  rw [outline]
  rintro entries rfl
  cases h

theorem isMapping_outline (v : OptionValue) : v.outline.isMapping = v.isMapping := by
  cases v <;> rfl

/-- Only the later of two values shows in the outline. -/
theorem outline_overlayAt (a : Option OptionValue) (b : OptionValue) :
    (overlayAt a b).outline = b.outline := by
  cases hb : b.isMapping with
  | false => rw [overlayAt_of_not_mapping a hb]
  | true =>
    have hab : (overlayAt a b).isMapping = true := by rw [isMapping_overlayAt, hb]
    obtain ⟨entries, hentries⟩ := isMapping_iff.mp hab
    obtain ⟨right, rfl⟩ := isMapping_iff.mp hb
    rw [hentries]
    rfl

/-- The outline of what stands at a path. -/
def outlineAt (v : OptionValue) (p : List String) : Option OptionValue := (v.at? p).map outline

theorem outlineAt_nil (v : OptionValue) : v.outlineAt [] = some v.outline := by
  rw [outlineAt, at?, walk_nil]
  rfl

/-- A path into a mapping goes on in the entry of its first key. -/
theorem outlineAt_mapping_cons (entries : List (String × OptionValue)) (key : String)
    (p : List String) :
    (mapping entries).outlineAt (key :: p) =
      (KeyMap.find? entries key).bind fun v => v.outlineAt p := by
  rw [outlineAt, at?, walk_mapping_cons]
  cases KeyMap.find? entries key <;> rfl

/-- Mappings with the same outlines have the same keys. -/
theorem find?_eq_none_of_outlineAt_eq {left right : List (String × OptionValue)}
    (h : ∀ p, (mapping left).outlineAt p = (mapping right).outlineAt p) {key : String}
    (hleft : KeyMap.find? left key = none) : KeyMap.find? right key = none := by
  have hkey := h [key]
  rw [outlineAt_mapping_cons, outlineAt_mapping_cons, hleft] at hkey
  cases hright : KeyMap.find? right key with
  | none => rfl
  | some v =>
    rw [hright, Option.bind_some, outlineAt_nil] at hkey
    cases hkey

mutual

/-- **A sorted value is determined by its outlines.** -/
theorem eq_of_outlineAt_eq : ∀ {v w : OptionValue}, v.Sorted → w.Sorted →
    (∀ p, v.outlineAt p = w.outlineAt p) → v = w
  | .mapping left, w, hv, hw, h => by
    have hroot := h []
    rw [outlineAt_nil, outlineAt_nil, Option.some.injEq] at hroot
    have hwm : w.isMapping = true := by
      rw [← isMapping_outline, ← hroot]
      rfl
    obtain ⟨right, rfl⟩ := isMapping_iff.mp hwm
    refine congrArg mapping (KeyMap.eq_of_find?_eq hv.1 hw.1 ?_)
    intro key
    cases hleft : KeyMap.find? left key with
    | none => exact (find?_eq_none_of_outlineAt_eq h hleft).symm
    | some x =>
      cases hright : KeyMap.find? right key with
      | none =>
        rw [find?_eq_none_of_outlineAt_eq (fun p => (h p).symm) hright] at hleft
        cases hleft
      | some y =>
        -- below the key the outlines agree again, so the induction applies to the entries
        have hbelow : ∀ p, x.outlineAt p = y.outlineAt p := by
          intro p
          have hp := h (key :: p)
          rwa [outlineAt_mapping_cons, outlineAt_mapping_cons, hleft, hright] at hp
        exact congrArg some (eq_of_find?_of_outlineAt_eq hv.2 hleft (hw.2.find? hright) hbelow)
  | .null, w, _, _, h | .bool _, w, _, _, h | .number _, w, _, _, h | .string _, w, _, _, h
  | .bytes _, w, _, _, h | .enumLiteral _, w, _, _, h | .sequence _, w, _, _, h => by
    have hroot := h []
    rw [outlineAt_nil, outlineAt_nil, Option.some.injEq, outline_of_not_mapping rfl] at hroot
    have hwm : w.isMapping = false := by
      rw [← isMapping_outline, ← hroot]
      rfl
    rw [hroot, outline_of_not_mapping hwm]

/-- An entry is determined by its outlines. -/
theorem eq_of_find?_of_outlineAt_eq : ∀ {entries : List (String × OptionValue)} {key : String}
    {v w : OptionValue}, SortedEntries entries → KeyMap.find? entries key = some v → w.Sorted →
    (∀ p, v.outlineAt p = w.outlineAt p) → v = w
  | (k, u) :: rest, key, v, w, hs, hf, hw, h => by
    rw [KeyMap.find?_cons] at hf
    by_cases hk : k = key
    · rw [if_pos hk, Option.some.injEq] at hf
      subst hf
      exact eq_of_outlineAt_eq hs.1 hw h
    · rw [if_neg hk] at hf
      exact eq_of_find?_of_outlineAt_eq hs.2 hf hw h

end

/-! ## Values laid over once more -/

/-- **What a further value leaves of the outline at a path**, from where the path ends in it. -/
def Landing.leaves (earlier : Option OptionValue) : Landing → Option OptionValue
  | .reached later => some later.outline
  | .absent => earlier
  | .blocked => none

/-- What a further value leaves at a path, as an outline, needs the outline of what was there only.
-/
theorem Landing.map_outline_after (earlier : Option OptionValue) (l : Landing) :
    (l.after earlier).map outline = l.leaves (earlier.map outline) := by
  cases l with
  | reached later => exact congrArg some (outline_overlayAt earlier later)
  | absent => rfl
  | blocked => rfl

/-- What values leave of the outline at a path, one after the other. -/
def leavesAll (p : List String) (vs : List OptionValue) (earlier : Option OptionValue) :
    Option OptionValue :=
  vs.foldl (fun shown v => (v.walk p).leaves shown) earlier

/-- More values leave what they leave of what the earlier ones left. -/
theorem leavesAll_append (p : List String) (vs ws : List OptionValue)
    (earlier : Option OptionValue) :
    leavesAll p (vs ++ ws) earlier = leavesAll p ws (leavesAll p vs earlier) := List.foldl_append

/-- **A list of values keeps the outline at a path or decides it.** -/
theorem leavesAll_eq_id_or_const (p : List String) (vs : List OptionValue) :
    (∀ earlier, leavesAll p vs earlier = earlier) ∨
      ∃ shown, ∀ earlier, leavesAll p vs earlier = shown := by
  induction vs using List.reverseRecOn with
  | nil => exact .inl fun _ => rfl
  | append_singleton vs v ih =>
    have hlast : ∀ earlier, leavesAll p (vs ++ [v]) earlier =
        (v.walk p).leaves (leavesAll p vs earlier) := leavesAll_append p vs [v]
    simp only [hlast]
    -- the last value decides, unless the path is absent in it
    cases v.walk p with
    | reached later => exact .inr ⟨some later.outline, fun _ => rfl⟩
    | absent => exact ih
    | blocked => exact .inr ⟨none, fun _ => rfl⟩

/-- **Laying all values over once more changes no outline.** -/
theorem leavesAll_leavesAll (p : List String) (vs : List OptionValue)
    (earlier : Option OptionValue) :
    leavesAll p vs (leavesAll p vs earlier) = leavesAll p vs earlier := by
  rcases leavesAll_eq_id_or_const p vs with hkeeps | ⟨shown, hdecides⟩
  · rw [hkeeps]
  · rw [hdecides, hdecides]

/-- The outline of the whole at a path is what its values leave there. -/
theorem outlineAt_overlayAll {vs : List OptionValue} (hs : ∀ v ∈ vs, v.Sorted) (p : List String) :
    ((overlayAll vs).bind fun m => m.outlineAt p) = leavesAll p vs none := by
  induction vs using List.reverseRecOn with
  | nil => rfl
  | append_singleton vs v ih =>
    have hv : v.Sorted := hs v (by simp)
    rw [leavesAll_append, ← ih fun w hw => hs w (by simp [hw]), overlayAll_concat,
      Option.bind_some, outlineAt, at?_overlayAt _ hv, Landing.map_outline_after]
    cases overlayAll vs <;> rfl

/-- **Values laid over once more change nothing**, whatever they were laid over first. -/
theorem overlayAll_replay {xs ys : List OptionValue} (hx : ∀ v ∈ xs, v.Sorted)
    (hy : ∀ v ∈ ys, v.Sorted) : overlayAll (xs ++ ys ++ ys) = overlayAll (xs ++ ys) := by
  have hxy : ∀ v ∈ xs ++ ys, v.Sorted := List.forall_mem_append.mpr ⟨hx, hy⟩
  have hxyy : ∀ v ∈ xs ++ ys ++ ys, v.Sorted := List.forall_mem_append.mpr ⟨hxy, hy⟩
  have houtline : ∀ p, ((overlayAll (xs ++ ys ++ ys)).bind fun m => m.outlineAt p) =
      (overlayAll (xs ++ ys)).bind fun m => m.outlineAt p := by
    intro p
    rw [outlineAt_overlayAll hxyy, outlineAt_overlayAll hxy, leavesAll_append, leavesAll_append,
      leavesAll_leavesAll]
  cases hm : overlayAll (xs ++ ys ++ ys) with
  | none =>
    -- then there are no values at all
    have hnil := overlayAll_eq_none.mp hm
    rw [(List.append_eq_nil_iff.mp hnil).1]
    rfl
  | some m =>
    cases hn : overlayAll (xs ++ ys) with
    | none =>
      have hnil := List.append_eq_nil_iff.mp (overlayAll_eq_none.mp hn)
      rw [hnil.1, hnil.2] at hm
      cases hm
    | some n =>
      rw [hm, hn] at houtline
      exact congrArg some
        (eq_of_outlineAt_eq (sorted_overlayAll hxyy hm) (sorted_overlayAll hxy hn) houtline)

end OptionValue

/-! ## Settings made once more -/

namespace OptionMerge

open Schema (OptionSetting)

theorem valuesOf_append (name : String) (settings others : List OptionSetting) :
    valuesOf name (settings ++ others) = valuesOf name settings ++ valuesOf name others := by
  rw [valuesOf, group, List.filter_append, List.map_append]
  rfl

/-- **Settings made again leave the same values.** -/
theorem accumulate_replay {settings again : List OptionSetting}
    (hs : ∀ s ∈ settings, s.value.Sorted) (ha : ∀ s ∈ again, s.value.Sorted) :
    accumulate (settings ++ again ++ again) = accumulate (settings ++ again) := by
  refine KeyMap.eq_of_find?_eq (ascending_accumulate _) (ascending_accumulate _) ?_
  intro name
  have hsorted : ∀ v ∈ valuesOf name settings, v.Sorted := fun v => sorted_of_mem_valuesOf hs
  have hsorted' : ∀ v ∈ valuesOf name again, v.Sorted := fun v => sorted_of_mem_valuesOf ha
  rw [find?_accumulate, find?_accumulate, valuesOf_append, valuesOf_append,
    OptionValue.overlayAll_replay hsorted hsorted']

/-- Each setting made twice in its place leaves the same values. -/
theorem accumulate_flatMap_twice {settings : List OptionSetting}
    (hs : ∀ s ∈ settings, s.value.Sorted) :
    accumulate (settings.flatMap fun s => [s, s]) = accumulate settings := by
  induction settings using List.reverseRecOn with
  | nil => rfl
  | append_singleton settings s ih =>
    obtain ⟨hsettings, hlast⟩ := List.forall_mem_append.mp hs
    have htwice : ∀ t ∈ settings.flatMap fun t => [t, t], t.value.Sorted := by
      intro t ht
      obtain ⟨u, hu, htu⟩ := List.mem_flatMap.mp ht
      obtain rfl : t = u := by simpa using htu
      exact hsettings t hu
    -- the last setting is repeated at once, which is the case of replaying it alone
    have hreplay := accumulate_replay htwice hlast
    rw [List.flatMap_append, List.flatMap_singleton, ← List.singleton_append,
      ← List.append_assoc, hreplay, accumulate_concat, accumulate_concat, ih hsettings]

/-- **Making settings again changes nothing.** Neither does it change anything to append a list to
itself, or to make every setting twice in its place. -/
theorem mergeOptions_replay {settings again : List OptionSetting}
    (hs : ∀ s ∈ settings, s.value.Sorted) (ha : ∀ s ∈ again, s.value.Sorted) :
    mergeOptions (settings ++ again ++ again) = mergeOptions (settings ++ again) ∧
      mergeOptions (settings ++ settings) = mergeOptions settings ∧
      mergeOptions (settings.flatMap fun s => [s, s]) = mergeOptions settings := by
  have hnone : ∀ s ∈ ([] : List OptionSetting), s.value.Sorted := by simp
  refine ⟨?_, ?_, ?_⟩
  · rw [mergeOptions, accumulate_replay hs ha, mergeOptions]
  · have hself := accumulate_replay hnone hs
    rw [List.nil_append] at hself
    rw [mergeOptions, hself, mergeOptions]
  · rw [mergeOptions, accumulate_flatMap_twice hs, mergeOptions]

/-- Settings of two options: a mapping, a scalar in its place, a part of it again, and a list. -/
def revisedSettings : List OptionSetting := [
  { extension := .here "o", path := "a.b", value := .bool true },
  { extension := .here "o", path := "a", value := .null },
  { extension := .here "o", path := "a.c", value := .bool false },
  { extension := .here "p", value := .sequence [.string "s", .string "t"] }]

/-- The scalar throws the first part away each time, and what it leaves is the same. -/
theorem mergeOptions_replay_revised :
    (∀ s ∈ flippingSettings, s.value.Sorted) ∧ (∀ s ∈ revisedSettings, s.value.Sorted) ∧
    mergeOptions (flippingSettings ++ revisedSettings ++ revisedSettings) =
      mergeOptions (flippingSettings ++ revisedSettings) ∧
    mergeOptions (flippingSettings ++ revisedSettings) = [
      { name := "o", value := .mapping [("a", .mapping [("c", .bool false)])] },
      { name := "p", value := .string "s" }, { name := "p", value := .string "t" }] := by
  have hs : ∀ s ∈ flippingSettings, s.value.Sorted := by
    simp [flippingSettings, OptionValue.Sorted]
  have ha : ∀ s ∈ revisedSettings, s.value.Sorted := by
    simp [revisedSettings, OptionValue.Sorted, OptionValue.SortedItems]
  exact ⟨hs, ha, (mergeOptions_replay hs ha).1, rfl⟩

end OptionMerge

end ProtoSchema
