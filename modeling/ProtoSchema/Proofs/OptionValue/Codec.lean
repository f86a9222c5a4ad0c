/-
Option values written and read back.

Bytes and enum constants travel as marker objects, and a null inside a value means that its
place is empty. Both are conventions inside JSON, so an option value can be written in a way
that reads as something else: a mapping with a marker's text under `reserved` is read as a
marker, and a null below the top is dropped. The values without either are the `Normal` ones.

Two facts say that this is the whole story. Reading gives nothing but normal values, since it
drops nulls and takes markers away on every level (`normal_ofJson`). And a value is read back
from what it is written as exactly if it is normal: a marker look-alike comes back as another
kind of value, and with a null dropped the value comes back too short (`length_ofItems`,
`length_ofMembers`).
-/
import ProtoSchema.Proofs.OptionValue.Decoding
import ProtoSchema.Proofs.OptionValue.Nulls

set_option autoImplicit false

namespace ProtoSchema

open Outcome

namespace OptionValue

/-! ## Markers -/

/-- The marker of an object is a string under the marker's key. -/
theorem markerOf_eq_some {members : List (String × Json)} {s : String} :
    markerOf members = some s ↔ KeyMap.find? members markerKey = some (.string s) := by
  unfold markerOf
  split
  · rename_i t ht
    rw [ht, Option.some.injEq, Option.some.injEq, Json.string.injEq]
  · rename_i hother
    constructor
    · intro h
      cases h
    · intro h
      exact absurd h (hother s)

/-- A mapping looks like a marker just if one of the two texts stands under the marker's name. -/
theorem hasMarker_eq_true {entries : List (String × OptionValue)} :
    hasMarker entries = true ↔
      KeyMap.find? entries markerKey = some (.string enumMarker) ∨
        KeyMap.find? entries markerKey = some (.string bytesMarker) := by
  unfold hasMarker
  split
  · rename_i t ht
    rw [ht]
    simp [or_comm]
  · rename_i hother
    have hnone : ∀ s, KeyMap.find? entries markerKey ≠ some (.string s) := fun s h => hother s h
    simp [hnone]

/-! ## Reading gives normal values -/

/-- Every entry that is read comes from a member of the same name. -/
theorem exists_mem_of_mem_ofMembers {members : List (String × Json)}
    {entries : List (String × OptionValue)} (h : ofMembers members = .ok entries)
    {key : String} {v : OptionValue} (hv : (key, v) ∈ entries) :
    ∃ j, (key, j) ∈ members ∧ ofJson j = .ok v := by
  induction members generalizing entries with
  | nil =>
    cases h
    cases hv
  | cons m rest ih =>
    obtain ⟨name, j⟩ := m
    rcases ofMembers_cons h with ⟨-, h⟩ | ⟨-, a, as, ha, has, rfl⟩
    · obtain ⟨i, hi, hiv⟩ := ih h hv
      exact ⟨i, List.mem_cons_of_mem _ hi, hiv⟩
    · rcases List.mem_cons.mp hv with heq | hmem
      · cases heq
        exact ⟨j, List.mem_cons_self, ha⟩
      · obtain ⟨i, hi, hiv⟩ := ih has hmem
        exact ⟨i, List.mem_cons_of_mem _ hi, hiv⟩

/-- Strings are read from strings only. -/
theorem eq_string_of_ofJson {j : Json} {s : String} (h : ofJson j = .ok (.string s)) :
    j = .string s := by
  cases j with
  | null => cases h
  | bool b => cases h
  | number n => cases h
  | string t =>
    cases h
    rfl
  | array items =>
    obtain ⟨vs, -, h⟩ := map_eq_ok.mp h
    cases h
  | object members =>
    obtain ⟨name, h⟩ | ⟨bs, h⟩ | ⟨-, -, entries, -, h⟩ := ofJson_object_cases h
    · cases h
    · cases h
    · cases h

/-- **No mapping that is read looks like a marker**: the text would have stood under the marker's
name in the object too. Names have to be distinct for this, or a null could hide the text. -/
theorem hasMarker_ofMembers {members : List (String × Json)}
    {entries : List (String × OptionValue)} (hs : KeyMap.Ascending members)
    (h : ofMembers members = .ok entries) (henum : markerOf members ≠ some enumMarker)
    (hbytes : markerOf members ≠ some bytesMarker) : hasMarker entries = false := by
  -- a string comes from a string only, so a marker among the entries was one among the members
  have hmarker : ∀ s, KeyMap.find? entries markerKey = some (.string s) →
      markerOf members = some s := by
    intro s hfind
    obtain ⟨j, hj, hjs⟩ := exists_mem_of_mem_ofMembers h (KeyMap.find?_mem hfind)
    rw [eq_string_of_ofJson hjs] at hj
    exact markerOf_eq_some.mpr (hs.find?_of_mem hj)
  rw [← Bool.not_eq_true, hasMarker_eq_true]
  rintro (hfind | hfind)
  · exact henum (hmarker enumMarker hfind)
  · exact hbytes (hmarker bytesMarker hfind)

mutual

/-- **Decoding leaves no null inside**: nulls in lists and objects are dropped, and markers are
taken away. The induction is on the JSON value, with its parts treated together. -/
theorem nullFree_ofJson : ∀ {j : Json} {v : OptionValue}, j.Sorted → j ≠ .null →
    ofJson j = .ok v → v.NullFree
  | .null, v, _, hj, _ => absurd rfl hj
  | .bool _, v, _, _, h | .number _, v, _, _, h | .string _, v, _, _, h => by
    cases h
    trivial
  | .array items, v, hs, _, h => by
    obtain ⟨vs, hvs, rfl⟩ := map_eq_ok.mp h
    exact nullFreeItems_ofItems hs hvs
  | .object members, v, hs, _, h => by
    obtain ⟨name, rfl⟩ | ⟨bs, rfl⟩ | ⟨henum, hbytes, entries, he, rfl⟩ := ofJson_object_cases h
    · trivial
    · trivial
    · exact ⟨hasMarker_ofMembers hs.1 he henum hbytes, nullFreeEntries_ofMembers hs.2 he⟩

/-- Of the items that are left none is null. -/
theorem nullFreeItems_ofItems : ∀ {items : List Json} {vs : List OptionValue},
    Json.SortedItems items → ofItems items = .ok vs → NullFreeItems vs
  | [], vs, _, h => by
    cases h
    trivial
  | j :: rest, vs, hs, h => by
    rcases ofItems_cons h with ⟨-, h⟩ | ⟨hj, a, as, ha, has, rfl⟩
    · exact nullFreeItems_ofItems hs.2 h
    · exact ⟨nullFree_ofJson hs.1 hj ha, nullFreeItems_ofItems hs.2 has⟩

/-- Nor is one of the entries. -/
theorem nullFreeEntries_ofMembers : ∀ {members : List (String × Json)}
    {entries : List (String × OptionValue)},
    Json.SortedMembers members → ofMembers members = .ok entries → NullFreeEntries entries
  | [], entries, _, h => by
    cases h
    trivial
  | (name, j) :: rest, entries, hs, h => by
    rcases ofMembers_cons h with ⟨-, h⟩ | ⟨hj, a, as, ha, has, rfl⟩
    · exact nullFreeEntries_ofMembers hs.2 h
    · exact ⟨nullFree_ofJson hs.1 hj ha, nullFreeEntries_ofMembers hs.2 has⟩

end

/-- **Whatever is read is normal.** -/
theorem normal_ofJson {j : Json} {v : OptionValue} (hj : j.Sorted) (h : ofJson j = .ok v) :
    v.Normal := by
  by_cases hnull : j = .null
  · subst hnull
    cases h
    exact .inl rfl
  · exact .inr (nullFree_ofJson hj hnull h)

mutual

/-- A value without nulls has none at any depth. -/
theorem NullFree.hasNull_eq_false : ∀ {v : OptionValue}, v.NullFree → v.hasNull = false
  | .null, h => h.elim
  | .bool _, _ | .number _, _ | .string _, _ | .bytes _, _ | .enumLiteral _, _ => rfl
  | .mapping _, h => NullFreeEntries.entriesHaveNull_eq_false h.2
  | .sequence _, h => NullFreeItems.itemsHaveNull_eq_false h

theorem NullFreeItems.itemsHaveNull_eq_false : ∀ {items : List OptionValue},
    NullFreeItems items → itemsHaveNull items = false
  | [], _ => rfl
  | _ :: _, h => by
    rw [itemsHaveNull, h.1.hasNull_eq_false, NullFreeItems.itemsHaveNull_eq_false h.2,
      Bool.or_false]

theorem NullFreeEntries.entriesHaveNull_eq_false : ∀ {entries : List (String × OptionValue)},
    NullFreeEntries entries → entriesHaveNull entries = false
  | [], _ => rfl
  | _ :: _, h => by
    rw [entriesHaveNull, h.1.hasNull_eq_false, NullFreeEntries.entriesHaveNull_eq_false h.2,
      Bool.or_false]

end

/-! ## What values are written as -/

/-- Only null is written as null. -/
theorem toJson_eq_null {v : OptionValue} : v.toJson = .null ↔ v = .null := by
  cases v <;> simp [toJson]

/-- Only a string is written as a string, so that a marker can come from nothing else. -/
theorem toJson_eq_string {v : OptionValue} {s : String} :
    v.toJson = .string s ↔ v = .string s := by
  cases v <;> simp [toJson]

/-- An entry is written under its key. -/
theorem find?_toMembers (entries : List (String × OptionValue)) (key : String) :
    KeyMap.find? (toMembers entries) key = (KeyMap.find? entries key).map toJson := by
  induction entries with
  | nil => rfl
  | cons e rest ih =>
    obtain ⟨k, v⟩ := e
    rw [toMembers, KeyMap.find?_cons, KeyMap.find?_cons, ih]
    by_cases hk : k = key
    · rw [if_pos hk, if_pos hk, Option.map_some]
    · rw [if_neg hk, if_neg hk]

/-- A written mapping has a marker exactly if the mapping has a string under the marker's key. -/
theorem markerOf_toMembers {entries : List (String × OptionValue)} {s : String} :
    markerOf (toMembers entries) = some s ↔
      KeyMap.find? entries markerKey = some (.string s) := by
  rw [markerOf_eq_some, find?_toMembers, Option.map_eq_some_iff]
  simp only [toJson_eq_string, exists_eq_right]

/-- A mapping is read as a marker just if it looks like one. -/
theorem hasMarker_eq_false {entries : List (String × OptionValue)} :
    hasMarker entries = false ↔
      markerOf (toMembers entries) ≠ some enumMarker ∧
        markerOf (toMembers entries) ≠ some bytesMarker := by
  rw [← Bool.not_eq_true, hasMarker_eq_true, not_or, Ne, Ne, markerOf_toMembers,
    markerOf_toMembers]

/-- The number of a byte is read as the byte. -/
theorem byte?_toNat (b : UInt8) : (Json.Number.int b.toNat).byte? = some b := by
  have hle : b.toNat ≤ 255 := by
    have := b.toNat_lt
    omega
  have hrange : (0 : Int) ≤ b.toNat ∧ (b.toNat : Int) ≤ 255 := by omega
  rw [Json.Number.byte?, if_pos hrange, Int.toNat_natCast, UInt8.ofNat_toNat]

/-- Written bytes are numbers below 256, which are bytes again. -/
theorem bytesOfItems_toNat (bs : List UInt8) :
    bytesOfItems (bs.map fun b => .int b.toNat) = .ok bs := by
  induction bs with
  | nil => rfl
  | cons b bs ih =>
    rw [List.map_cons, Json.int, bytesOfItems, byte?_toNat]
    exact map_eq_ok.mpr ⟨bs, ih, rfl⟩

/-- **Bytes are read back** through their marker. -/
theorem ofJson_toJson_bytes (bs : List UInt8) :
    ofJson (toJson (.bytes bs)) = .ok (.bytes bs) := by
  have hread : bytesOfMembers [(markerKey, .string bytesMarker),
      ("value", .array (bs.map fun b => .int b.toNat))] = .ok (.bytes bs) :=
    map_eq_ok.mpr ⟨bs, bytesOfItems_toNat bs, rfl⟩
  exact hread

/-- **An enum constant is read back** through its marker. -/
theorem ofJson_toJson_enumLiteral (name : String) :
    ofJson (toJson (.enumLiteral name)) = .ok (.enumLiteral name) := rfl

/-! ## Sorted values are written as sorted values -/

theorem keys_toMembers (entries : List (String × OptionValue)) :
    KeyMap.keys (toMembers entries) = KeyMap.keys entries := by
  induction entries with
  | nil => rfl
  | cons e rest ih =>
    obtain ⟨key, v⟩ := e
    exact congrArg (key :: ·) ih

/-- A mapping with its keys in order is written in order. -/
theorem ascending_toMembers {entries : List (String × OptionValue)}
    (h : KeyMap.Ascending entries) : KeyMap.Ascending (toMembers entries) := by
  induction entries with
  | nil => exact KeyMap.ascending_nil
  | cons e rest ih =>
    obtain ⟨key, v⟩ := e
    obtain ⟨hlt, htail⟩ := KeyMap.ascending_cons.mp h
    refine KeyMap.ascending_cons.mpr ⟨?_, ih htail⟩
    rw [keys_toMembers]
    exact hlt

theorem sortedItems_ints (bs : List UInt8) :
    Json.SortedItems (bs.map fun b => .int b.toNat) := by
  induction bs with
  | nil => trivial
  | cons b bs ih => exact ⟨trivial, ih⟩

mutual

/-- **A sorted value is written as sorted JSON**, markers included. -/
theorem sorted_toJson : ∀ {v : OptionValue}, v.Sorted → v.toJson.Sorted
  | .null, _ | .bool _, _ | .number _, _ | .string _, _ => trivial
  | .bytes bs, _ =>
    ⟨KeyMap.ascending_pair (by decide) _ _, trivial, sortedItems_ints bs, trivial⟩
  | .enumLiteral _, _ => ⟨KeyMap.ascending_pair (by decide) _ _, trivial, trivial, trivial⟩
  | .mapping _, h => ⟨ascending_toMembers h.1, sortedMembers_toMembers h.2⟩
  | .sequence _, h => sortedItems_toItems h

theorem sortedItems_toItems : ∀ {items : List OptionValue}, SortedItems items →
    Json.SortedItems (toItems items)
  | [], _ => trivial
  | _ :: _, h => ⟨sorted_toJson h.1, sortedItems_toItems h.2⟩

theorem sortedMembers_toMembers : ∀ {entries : List (String × OptionValue)},
    SortedEntries entries → Json.SortedMembers (toMembers entries)
  | [], _ => trivial
  | _ :: _, h => ⟨sorted_toJson h.1, sortedMembers_toMembers h.2⟩

end

/-! ## Normal values are read back -/

/-- Items are decoded from the front, one after the other. -/
theorem ofItems_cons_eq_ok {j : Json} {rest : List Json} {a : OptionValue}
    {as : List OptionValue} (hj : j ≠ .null) (ha : ofJson j = .ok a)
    (has : ofItems rest = .ok as) : ofItems (j :: rest) = .ok (a :: as) := by
  rw [ofItems]
  · exact bind_eq_ok.mpr ⟨a, ha, bind_eq_ok.mpr ⟨as, has, rfl⟩⟩
  · exact hj

/-- Members are too. -/
theorem ofMembers_cons_eq_ok {name : String} {j : Json} {rest : List (String × Json)}
    {a : OptionValue} {as : List (String × OptionValue)} (hj : j ≠ .null)
    (ha : ofJson j = .ok a) (has : ofMembers rest = .ok as) :
    ofMembers ((name, j) :: rest) = .ok ((name, a) :: as) := by
  rw [ofMembers]
  · exact bind_eq_ok.mpr ⟨a, ha, bind_eq_ok.mpr ⟨as, has, rfl⟩⟩
  · exact hj

/-- A value without nulls is not null itself. -/
theorem NullFree.toJson_ne_null {v : OptionValue} (h : v.NullFree) : v.toJson ≠ .null := by
  intro hnull
  rw [toJson_eq_null] at hnull
  subst hnull
  exact h

mutual

/-- **A value without nulls is read back**, at any depth. -/
theorem ofJson_toJson : ∀ {v : OptionValue}, v.NullFree → ofJson v.toJson = .ok v
  | .null, h => h.elim
  | .bool _, _ | .number _, _ | .string _, _ => rfl
  | .bytes bs, _ => ofJson_toJson_bytes bs
  | .enumLiteral name, _ => ofJson_toJson_enumLiteral name
  | .mapping entries, h => by
    obtain ⟨henum, hbytes⟩ := hasMarker_eq_false.mp h.1
    rw [toJson, ofJson, if_neg henum, if_neg hbytes]
    exact map_eq_ok.mpr ⟨entries, ofMembers_toMembers h.2, rfl⟩
  | .sequence items, h => by
    rw [toJson, ofJson]
    exact map_eq_ok.mpr ⟨items, ofItems_toItems h, rfl⟩

theorem ofItems_toItems : ∀ {items : List OptionValue}, NullFreeItems items →
    ofItems (toItems items) = .ok items
  | [], _ => rfl
  | _ :: _, h => ofItems_cons_eq_ok h.1.toJson_ne_null (ofJson_toJson h.1) (ofItems_toItems h.2)

theorem ofMembers_toMembers : ∀ {entries : List (String × OptionValue)},
    NullFreeEntries entries → ofMembers (toMembers entries) = .ok entries
  | [], _ => rfl
  | _ :: _, h =>
    ofMembers_cons_eq_ok h.1.toJson_ne_null (ofJson_toJson h.1) (ofMembers_toMembers h.2)

end

/-! ## Only normal values are read back

A null below the top is dropped, and then there are fewer parts than there were. -/

/-- Decoding never makes a list longer; it gets shorter by the nulls that are dropped. -/
theorem length_ofItems {items : List Json} {vs : List OptionValue}
    (h : ofItems items = .ok vs) : vs.length ≤ items.length := by
  induction items generalizing vs with
  | nil =>
    cases h
    exact le_refl _
  | cons j rest ih =>
    rcases ofItems_cons h with ⟨-, h⟩ | ⟨-, a, as, -, has, rfl⟩
    · exact Nat.le_succ_of_le (ih h)
    · exact Nat.succ_le_succ (ih has)

/-- Nor does it make an object larger. -/
theorem length_ofMembers {members : List (String × Json)}
    {entries : List (String × OptionValue)} (h : ofMembers members = .ok entries) :
    entries.length ≤ members.length := by
  induction members generalizing entries with
  | nil =>
    cases h
    exact le_refl _
  | cons m rest ih =>
    obtain ⟨name, j⟩ := m
    rcases ofMembers_cons h with ⟨-, h⟩ | ⟨-, a, as, -, has, rfl⟩
    · exact Nat.le_succ_of_le (ih h)
    · exact Nat.succ_le_succ (ih has)

theorem length_toItems (items : List OptionValue) : (toItems items).length = items.length := by
  induction items with
  | nil => rfl
  | cons v rest ih => rw [toItems, List.length_cons, List.length_cons, ih]

theorem length_toMembers (entries : List (String × OptionValue)) :
    (toMembers entries).length = entries.length := by
  induction entries with
  | nil => rfl
  | cons e rest ih =>
    obtain ⟨key, v⟩ := e
    rw [toMembers, List.length_cons, List.length_cons, ih]

mutual

/-- **Only values without nulls are read back.** A null inside is dropped, and what is left is
shorter; a mapping that looks like a marker is read as something else. -/
theorem nullFree_of_ofJson_toJson : ∀ {v : OptionValue}, v.toJson ≠ .null →
    ofJson v.toJson = .ok v → v.NullFree
  | .null, hne, _ => absurd rfl hne
  | .bool _, _, _ | .number _, _, _ | .string _, _, _ | .bytes _, _, _
  | .enumLiteral _, _, _ => trivial
  | .mapping entries, _, h => by
    -- a look-alike would have come back as a marker
    obtain ⟨name, heq⟩ | ⟨bs, heq⟩ | ⟨henum, hbytes, es, hes, heq⟩ := ofJson_object_cases h
    · cases heq
    · cases heq
    · cases heq
      exact ⟨hasMarker_eq_false.mpr ⟨henum, hbytes⟩, nullFreeEntries_of_ofMembers_toMembers hes⟩
  | .sequence items, _, h => by
    obtain ⟨vs, hvs, heq⟩ := map_eq_ok.mp h
    cases heq
    exact nullFreeItems_of_ofItems_toItems hvs

/-- A list is read back at its full length only if none of its items is null. -/
theorem nullFreeItems_of_ofItems_toItems : ∀ {items : List OptionValue},
    ofItems (toItems items) = .ok items → NullFreeItems items
  | [], _ => trivial
  | v :: rest, h => by
    rcases ofItems_cons h with ⟨-, h⟩ | ⟨hv, a, as, ha, has, heq⟩
    · have hlen := length_ofItems h
      rw [length_toItems, List.length_cons] at hlen
      omega
    · cases heq
      exact ⟨nullFree_of_ofJson_toJson hv ha, nullFreeItems_of_ofItems_toItems has⟩

/-- A mapping is read back with all its entries only if none of them is null. -/
theorem nullFreeEntries_of_ofMembers_toMembers : ∀ {entries : List (String × OptionValue)},
    ofMembers (toMembers entries) = .ok entries → NullFreeEntries entries
  | [], _ => trivial
  | (key, v) :: rest, h => by
    rcases ofMembers_cons h with ⟨-, h⟩ | ⟨hv, a, as, ha, has, heq⟩
    · have hlen := length_ofMembers h
      rw [length_toMembers, List.length_cons] at hlen
      omega
    · cases heq
      exact ⟨nullFree_of_ofJson_toJson hv ha, nullFreeEntries_of_ofMembers_toMembers has⟩

end

/-- **A value is read back exactly if it is normalised.** -/
theorem ofJson_toJson_eq_ok_iff (v : OptionValue) : ofJson v.toJson = .ok v ↔ v.Normal := by
  constructor
  · intro h
    by_cases hnull : v.toJson = .null
    · exact .inl (toJson_eq_null.mp hnull)
    · exact .inr (nullFree_of_ofJson_toJson hnull h)
  · rintro (rfl | h)
    · rfl
    · exact ofJson_toJson h

/-- **The codec of option values is exact on normal values.** Only they are ever read, and they
are the ones that are read back from what they are written as. -/
theorem codec_exact :
    (∀ (j : Json) (v : OptionValue), j.Sorted → ofJson j = .ok v → v.Normal) ∧
    ∀ v : OptionValue, ofJson v.toJson = .ok v ↔ v.Normal :=
  ⟨fun _ _ hj h => normal_ofJson hj h, ofJson_toJson_eq_ok_iff⟩

/-- An object with a marker under the marker's name, one for bytes (of which one is written as
`2.0`), and a null. -/
def markedTwice : Json := .object [
  ("data", .object [
    (markerKey, .string bytesMarker),
    ("value", .array [.int 255, .number (.float ⟨false, Nat.pow 2 52, -51⟩)])]),
  ("none", .null),
  (markerKey, .object [("name", .string "RED"), (markerKey, .string enumMarker)])]

/-- It is read as a normal value, which is read back; a mapping that looks like a marker is
not. -/
theorem codec_exact_markedTwice :
    let v := mapping [("data", .bytes [255, 2]), (markerKey, .enumLiteral "RED")]
    let lookalike := mapping [(markerKey, .string bytesMarker)]
    markedTwice.Sorted ∧ ofJson markedTwice = .ok v ∧ v.Normal ∧ ofJson v.toJson = .ok v ∧
      ofJson lookalike.toJson ≠ .ok lookalike := by
  intro v lookalike
  obtain ⟨hnormal, hback⟩ := codec_exact
  have hsorted : markedTwice.Sorted := by
    refine ⟨by decide, ⟨?_, trivial, ⟨trivial, trivial, trivial⟩, trivial⟩, trivial,
      ⟨?_, trivial, trivial, trivial⟩, trivial⟩
    · exact KeyMap.ascending_pair (by decide) _ _
    · exact KeyMap.ascending_pair (by decide) _ _
  have hread : ofJson markedTwice = .ok v := rfl
  have hv : v.Normal := hnormal markedTwice v hsorted hread
  refine ⟨hsorted, hread, hv, (hback v).mpr hv, ?_⟩
  intro h
  obtain h | h := (hback lookalike).mp h
  · exact absurd h nofun
  · exact absurd h.1 (by decide)

end OptionValue

end ProtoSchema
