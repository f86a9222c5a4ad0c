/-
Null members of documents.

A document may give null for a member, or leave the member out: it is decoded to the same, or
refused for the same fault (`ofJson_pruned_document`). Every decoder is shown to see no difference
between a value and its pruned form (`IgnoresNulls`), from scalars to whole documents. For a
record this needs three things of its fields: each sees no difference in its own value, whether it
is a member or an item; a null for a field that is not set yet changes nothing; and only the
target of a custom option has to be there.

The target is the one place where a null matters. A custom option may be written as an array, and
its target as an object with a null in it; then the null is part of the target's name.
-/
import Mathlib.Data.List.Find
import Mathlib.Logic.Function.Conjugate
import ProtoSchema.Proofs.Json.Pruning
import ProtoSchema.Proofs.Outcome
import ProtoSchema.Schema.OfJson

set_option autoImplicit false

namespace ProtoSchema

open Json (Site targetName prunedItems prunedMembers)

/-! ## Option values -/

namespace OptionValue

/-- A marker is a string, so pruning neither removes nor makes one. -/
theorem markerOf_prunedMembers {members : List (String × Json)} (h : KeyMap.Ascending members) :
    markerOf (prunedMembers .elsewhere members) = markerOf members := by
  have hname : markerKey ≠ targetName := by decide
  rw [markerOf, markerOf, Json.find?_prunedMembers _ h hname, Site.member_elsewhere hname]
  cases KeyMap.find? members markerKey with
  | none => rfl
  | some v => cases v <;> rfl

/-- The name of an enum constant is a string and is not pruned either. What is no string is refused,
pruned or not. -/
theorem enumLiteralOfMembers_prunedMembers {members : List (String × Json)}
    (h : KeyMap.Ascending members) :
    enumLiteralOfMembers (prunedMembers .elsewhere members) = enumLiteralOfMembers members := by
  have hname : "name" ≠ targetName := by decide
  rw [enumLiteralOfMembers, enumLiteralOfMembers, Json.find?_prunedMembers _ h hname,
    Site.member_elsewhere hname]
  cases KeyMap.find? members "name" with
  | none => rfl
  | some v => cases v <;> rfl

/-- Bytes are numbers, and these have no members. -/
theorem bytesOfItems_prunedItems (index : Nat) (items : List Json) :
    bytesOfItems (prunedItems .elsewhere index items) = bytesOfItems items := by
  induction items generalizing index with
  | nil => rfl
  | cons v rest ih =>
    rw [Json.prunedItems]
    cases v with
    | number n =>
      change bytesOfItems (.number n :: _) = _
      rw [bytesOfItems, ih, bytesOfItems]
    | _ => rfl

/-- The items of bytes are numbers, and a list of numbers has nothing to prune. -/
theorem bytesOfMembers_prunedMembers {members : List (String × Json)}
    (h : KeyMap.Ascending members) :
    bytesOfMembers (prunedMembers .elsewhere members) = bytesOfMembers members := by
  have hname : "value" ≠ targetName := by decide
  rw [bytesOfMembers, bytesOfMembers, Json.find?_prunedMembers _ h hname,
    Site.member_elsewhere hname]
  cases KeyMap.find? members "value" with
  | none => rfl
  | some v =>
    cases v with
    | array items =>
      change OptionValue.bytes <$> bytesOfItems (prunedItems .elsewhere 0 items) = _
      rw [bytesOfItems_prunedItems]
    | _ => rfl

/-- An item that is not null is decoded and kept. -/
theorem ofItems_cons_of_ne_null {v : Json} (h : v ≠ .null) (rest : List Json) :
    ofItems (v :: rest) = (do return (← ofJson v) :: (← ofItems rest)) := by
  rw [ofItems]
  exact h

/-- So is a member. -/
theorem ofMembers_cons_of_ne_null (name : String) {v : Json} (h : v ≠ .null)
    (rest : List (String × Json)) :
    ofMembers ((name, v) :: rest) = (do return (name, ← ofJson v) :: (← ofMembers rest)) := by
  rw [ofMembers]
  exact h

mutual

/-- **An option value is read without its nulls**, so that it makes no difference to take them
out before. -/
theorem ofJson_pruned : ∀ {v : Json}, v.Sorted → ofJson (v.pruned .elsewhere) = ofJson v
  | .null, _ | .bool _, _ | .number _, _ | .string _, _ => rfl
  | .array items, h => by
    change OptionValue.sequence <$> ofItems (prunedItems .elsewhere 0 items) = _
    rw [ofItems_prunedItems 0 h, ofJson]
  | .object members, h => by
    rw [Json.pruned_object (by decide), ofJson, ofJson, markerOf_prunedMembers h.1,
      enumLiteralOfMembers_prunedMembers h.1, bytesOfMembers_prunedMembers h.1,
      ofMembers_prunedMembers h.2]

/-- Pruning inside the items of a list changes no item's value. -/
theorem ofItems_prunedItems : ∀ (index : Nat) {items : List Json}, Json.SortedItems items →
    ofItems (prunedItems .elsewhere index items) = ofItems items
  | _, [], _ => rfl
  | index, v :: rest, h => by
    rw [Json.prunedItems]
    by_cases hv : v = .null
    · subst hv
      exact ofItems_prunedItems (index + 1) h.2
    · rw [ofItems_cons_of_ne_null (mt (Json.pruned_eq_null _ v).mp hv),
        ofItems_cons_of_ne_null hv, ofItems_prunedItems (index + 1) h.2]
      exact congrArg (· >>= _) (ofJson_pruned h.1)

/-- Decoding drops the members that are null, so it does not matter if they were pruned before. -/
theorem ofMembers_prunedMembers : ∀ {members : List (String × Json)}, Json.SortedMembers members →
    ofMembers (prunedMembers .elsewhere members) = ofMembers members
  | [], _ => rfl
  | (name, v) :: rest, h => by
    by_cases hname : name = targetName
    · -- a target is kept, and if it is null it is dropped here
      rw [Json.prunedMembers_cons fun _ => hname, hname, Site.member_targetName,
        Json.pruned_target]
      by_cases hv : v = .null
      · subst hv
        exact ofMembers_prunedMembers h.2
      · rw [ofMembers_cons_of_ne_null _ hv, ofMembers_cons_of_ne_null _ hv,
          ofMembers_prunedMembers h.2]
    · by_cases hv : v = .null
      · subst hv
        rw [Json.prunedMembers_cons_null hname]
        exact ofMembers_prunedMembers h.2
      · rw [Json.prunedMembers_cons fun hnull => absurd hnull hv, Site.member_elsewhere hname,
          ofMembers_cons_of_ne_null _ (mt (Json.pruned_eq_null _ v).mp hv),
          ofMembers_cons_of_ne_null _ hv, ofMembers_prunedMembers h.2, ofJson_pruned h.1]

end

end OptionValue

namespace Schema

namespace OfJson

variable {α β ρ : Type}

/-! ## Decoders -/

/-- **A decoder sees no difference** between a value at a site and its pruned form. -/
def IgnoresNulls (site : Site) (d : OfJson α) : Prop :=
  ∀ v : Json, v.Sorted → d (v.pruned site) = d v

/-- A target is not pruned at all. -/
theorem ignoresNulls_target (d : OfJson α) : IgnoresNulls .target d := by
  intro v _
  rw [Json.pruned_target]

section Scalars

variable {site : Site}

theorem ignoresNulls_string : IgnoresNulls site format.string := by
  intro v _
  cases v <;> cases site <;> rfl

theorem ignoresNulls_bool : IgnoresNulls site format.bool := by
  intro v _
  cases v <;> cases site <;> rfl

theorem ignoresNulls_int : IgnoresNulls site format.int := by
  intro v _
  cases v <;> cases site <;> rfl

theorem ignoresNulls_tooDeep : IgnoresNulls site (format.tooDeep : OfJson α) := by
  intro v _
  change Except.error (Json.DataError.invalidType (v.pruned site).shape _) = _
  rw [Json.shape_pruned]
  rfl

/-- **An option value does not depend on the nulls of its objects**, at any depth. -/
theorem ignoresNulls_optionValue : IgnoresNulls .elsewhere format.optionValue := by
  intro v hv
  change optionValue (v.pruned .elsewhere) = optionValue v
  rw [optionValue, OptionValue.ofJson_pruned hv, optionValue]

/-- What is made of a decoded value ignores the nulls that the value ignores. -/
theorem ignoresNulls_map {d : OfJson α} (h : IgnoresNulls site d) (f : α → β) :
    IgnoresNulls site (format.map f d) :=
  fun v hv => congrArg (f <$> ·) (h v hv)

/-- The default counts only for a null. -/
theorem orNull_of_ne_null (default : α) (d : OfJson α) {v : Json} (h : v ≠ .null) :
    orNull default d v = d v := by
  rw [orNull]
  exact h

/-- A value that may be null ignores nulls below: pruning makes nothing null that was not. -/
theorem ignoresNulls_orNull {d : OfJson α} (h : IgnoresNulls site d) (default : α) :
    IgnoresNulls site (format.orNull default d) := by
  intro v hv
  change orNull default d (v.pruned site) = orNull default d v
  by_cases hnull : v = .null
  · rw [hnull, (Json.pruned_eq_null site .null).mpr rfl]
  · rw [orNull_of_ne_null default d (mt (Json.pruned_eq_null site v).mp hnull),
      orNull_of_ne_null default d hnull, h v hv]

/-- The items of a list are decoded alike, each at its own site. -/
theorem items_prunedItems {d : OfJson α} (h : ∀ index, IgnoresNulls (site.item index) d)
    (index : Nat) {vs : List Json} (hvs : Json.SortedItems vs) :
    items d (prunedItems site index vs) = items d vs := by
  induction vs generalizing index with
  | nil => rfl
  | cons v vs ih =>
    rw [Json.prunedItems, items, items, h index v hvs.1, ih (index + 1) hvs.2]

/-- A list ignores nulls inside its items. It keeps its items, also those that are null. -/
theorem ignoresNulls_list {d : OfJson α} (hsite : site ≠ .target)
    (h : ∀ index, IgnoresNulls (site.item index) d) : IgnoresNulls site (format.list d) := by
  intro v hv
  cases v with
  | array vs =>
    rw [Json.pruned_array hsite]
    exact items_prunedItems h 0 hv
  | _ => cases site <;> rfl

end Scalars

/-- The items of a list that is none of a document's own are values like others. -/
theorem ignoresNulls_list_elsewhere {d : OfJson α} (h : IgnoresNulls .elsewhere d) :
    IgnoresNulls .elsewhere (format.list d) :=
  ignoresNulls_list (by decide) fun _ => h

/-! ## Records -/

section Records

variable {r : RecordDecoder OfJson ρ} {site : Site}

/-- **Null leaves a field as it is that is not set**: the change that it makes is none to the
blank record, and it stays none whatever the other fields are set to. -/
def NullIsBlank (r : RecordDecoder OfJson ρ) (f : FieldDecoder OfJson ρ) : Prop :=
  ∃ blank, f.update .null = .ok blank ∧ blank r.blank = r.blank ∧
    ∀ g ∈ r.fields, g.name ≠ f.name → ∀ v change, g.update v = .ok change →
      Function.Commute blank change

/-- **A field tolerates nulls**, as a member and as the item at an index. -/
structure Tolerates (r : RecordDecoder OfJson ρ) (site : Site) (index : Nat)
    (f : FieldDecoder OfJson ρ) : Prop where
  item : IgnoresNulls (site.item index) f.update
  member : IgnoresNulls (site.member f.name) f.update
  null : f.name ≠ targetName → NullIsBlank r f
  required : f.required = true → f.name = targetName

/-- All fields of a list tolerate nulls, the first as the item at `index`. -/
def AllTolerate (r : RecordDecoder OfJson ρ) (site : Site) :
    Nat → List (FieldDecoder OfJson ρ) → Prop
  | _, [] => True
  | index, f :: fields => Tolerates r site index f ∧ AllTolerate r site (index + 1) fields

/-- Each of the fields tolerates pruning at its own index. -/
theorem AllTolerate.of_mem {index : Nat} {fields : List (FieldDecoder OfJson ρ)}
    (h : AllTolerate r site index fields) {f : FieldDecoder OfJson ρ} (hf : f ∈ fields) :
    ∃ i, Tolerates r site i f := by
  induction fields generalizing index with
  | nil => cases hf
  | cons g fields ih =>
    rcases List.mem_cons.mp hf with rfl | hmem
    · exact ⟨index, h.1⟩
    · exact ih h.2 hmem

/-- **A record given as an array does not change by pruning**: the items keep their places, so that
each is still for its own field. -/
theorem applyItems_prunedItems {length index : Nat} {fields : List (FieldDecoder OfJson ρ)}
    (h : AllTolerate r site index fields) {vs : List Json} (hvs : Json.SortedItems vs) (x : ρ) :
    applyItems r length fields index (prunedItems site index vs) x =
      applyItems r length fields index vs x := by
  induction fields generalizing index vs x with
  | nil => cases vs <;> rfl
  | cons f fields ih =>
    cases vs with
    | nil => rfl
    | cons v vs =>
      rw [Json.prunedItems, applyItems, applyItems, h.1.item v hvs.1]
      refine congrArg (_ >>= ·) (funext fun change => ?_)
      exact ih h.2 hvs.2 (change x)

/-- **Null members are skipped.** The record so far is blank where its members have still to come:
for these a null changes nothing. -/
theorem applyMembers_prunedMembers (hf : ∀ f ∈ r.fields, ∃ i, Tolerates r site i f)
    {members : List (String × Json)} (hascending : KeyMap.Ascending members)
    (hsorted : Json.SortedMembers members) {x : ρ}
    (hblank : ∀ name ∈ KeyMap.keys members, name ≠ targetName → ∀ f, r.field? name = some f →
      ∀ blank, f.update .null = .ok blank → blank x = x) :
    applyMembers r (prunedMembers site members) x = applyMembers r members x := by
  induction members generalizing x with
  | nil => rfl
  | cons m rest ih =>
    obtain ⟨name, v⟩ := m
    obtain ⟨hlt, hrest⟩ := KeyMap.ascending_cons.mp hascending
    have hlater := fun other hmem => hblank other (List.mem_cons_of_mem name hmem)
    cases hfield : r.field? name with
    | none =>
      -- a member that is no field is skipped, pruned or not
      rw [applyMembers, hfield, ← ih hrest hsorted.2 hlater, prunedMembers]
      split
      · rfl
      · rw [applyMembers, hfield]
    | some f =>
      have hmem : f ∈ r.fields := List.mem_of_find?_eq_some hfield
      have hname : f.name = name := by simpa using List.find?_some hfield
      obtain ⟨i, htolerates⟩ := hf f hmem
      by_cases hnull : v = .null ∧ name ≠ targetName
      · obtain ⟨rfl, htarget⟩ := hnull
        obtain ⟨blank, hupdate, -⟩ := htolerates.null (hname ▸ htarget)
        have hx : blank x = x := hblank name List.mem_cons_self htarget f hfield blank hupdate
        rw [Json.prunedMembers_cons_null htarget, applyMembers, hfield, ih hrest hsorted.2 hlater]
        simp only [hupdate, hx, bind, Except.bind]
      · have hkept : v = .null → name = targetName := fun hv =>
          of_not_not fun hne => hnull ⟨hv, hne⟩
        have hvalue := htolerates.member v hsorted.1
        rw [hname] at hvalue
        rw [Json.prunedMembers_cons hkept, applyMembers, applyMembers, hfield]
        simp only [hvalue]
        cases hupdate : f.update v with
        | error e => rfl
        | ok change =>
          refine ih hrest hsorted.2 ?_
          -- the change is to another field, so the later ones are as blank as before
          intro other hother htarget g hg blank hnull
          have hgname : g.name = other := by simpa using List.find?_some hg
          have hgmem : g ∈ r.fields := List.mem_of_find?_eq_some hg
          obtain ⟨j, hgtolerates⟩ := hf g hgmem
          obtain ⟨blank', hblank', -, hcommute⟩ := hgtolerates.null (hgname ▸ htarget)
          obtain rfl : blank' = blank := Except.ok.inj (hblank'.symm.trans hnull)
          have hne : f.name ≠ g.name := by
            rw [hname, hgname]
            rintro rfl
            exact String.lt_irrefl name (hlt name hother)
          rw [hcommute f hmem hne v change hupdate x, hlater other hother htarget g hg blank' hnull]

/-- The field that is missing is the same, since only a target can be missing. -/
theorem missing?_prunedMembers (hf : ∀ f ∈ r.fields, ∃ i, Tolerates r site i f)
    (members : List (String × Json)) :
    r.missing? ((prunedMembers site members).map Prod.fst) =
      r.missing? (members.map Prod.fst) := by
  rw [RecordDecoder.missing?, RecordDecoder.missing?]
  refine List.find?_congr fun f hmem => ?_
  cases hrequired : f.required with
  | false => rfl
  | true =>
    -- the target is the only required member, and it is never dropped
    obtain ⟨i, htolerates⟩ := hf f hmem
    rw [htolerates.required hrequired]
    have hkeys := Json.targetName_mem_keys_prunedMembers site members
    simp only [KeyMap.keys] at hkeys
    simp only [Bool.true_and, List.contains_eq_mem, hkeys]

/-- **A record tolerates nulls if each of its fields does**, whether it is an object or an
array. -/
theorem ignoresNulls_record (hsite : site ≠ .target) (h : AllTolerate r site 0 r.fields) :
    IgnoresNulls site (format.record r) := by
  intro v hv
  cases v with
  | object members =>
    rw [Json.pruned_object hsite]
    have hf : ∀ f ∈ r.fields, ∃ i, Tolerates r site i f := fun f hmem => h.of_mem hmem
    -- a null member that is dropped would have left the record as it is
    have hmembers := applyMembers_prunedMembers hf hv.1 hv.2 (x := r.blank) (by
      intro name _ htarget f hfield blank hnull
      have hname : f.name = name := by simpa using List.find?_some hfield
      obtain ⟨i, htolerates⟩ := hf f (List.mem_of_find?_eq_some hfield)
      obtain ⟨blank', hblank', hr, -⟩ := htolerates.null (hname ▸ htarget)
      obtain rfl : blank' = blank := Except.ok.inj (hblank'.symm.trans hnull)
      exact hr)
    change record r (.object (prunedMembers site members)) = record r (.object members)
    rw [record, record, hmembers, missing?_prunedMembers hf]
  | array vs =>
    -- fields given as an array keep their places, since no item is dropped
    rw [Json.pruned_array hsite]
    change record r (.array (prunedItems site 0 vs)) = record r (.array vs)
    rw [record, record, Json.length_prunedItems]
    exact applyItems_prunedItems h hv r.blank
  | _ => cases site <;> rfl

/-- **A field that null leaves as it is**, and that stands at the same site as a member and as an
item. -/
theorem tolerates_field {d : OfJson α} {name : String} {index : Nat} {set : α → ρ → ρ}
    (h : IgnoresNulls (site.item index) d) (hsame : site.member name = site.item index) :
    Tolerates r site index (format.field name d set) where
  item := ignoresNulls_orNull (ignoresNulls_map h set) id
  member := hsame ▸ ignoresNulls_orNull (ignoresNulls_map h set) id
  null _ := ⟨id, rfl, rfl, fun _ _ _ _ _ _ => Function.Commute.id_left⟩
  required h := by cases h

/-- A field that has to be given, whose values are not pruned. -/
theorem tolerates_target {d : OfJson α} {index : Nat} {set : α → ρ → ρ}
    (hitem : site.item index = .target) :
    Tolerates r site index (format.requiredField targetName d set) where
  item := hitem ▸ ignoresNulls_target _
  member := (site.member_targetName).symm ▸ ignoresNulls_target _
  null h := absurd rfl h
  required _ := rfl

end Records

/-! ## The kinds of records -/

theorem ignoresNulls_typeRef : IgnoresNulls .elsewhere format.typeRef :=
  ignoresNulls_record (by decide) ⟨tolerates_field ignoresNulls_string rfl,
    tolerates_field ignoresNulls_string rfl, tolerates_field ignoresNulls_string rfl, trivial⟩

/-- What a field changes commutes with what each of its settings commutes with. -/
theorem commute_update_field {d : OfJson α} {name : String} {set : α → ρ → ρ} {blank : ρ → ρ}
    (h : ∀ a, Function.Commute blank (set a)) {v : Json} {change : ρ → ρ}
    (hupdate : (format.field name d set : FieldDecoder OfJson ρ).update v = .ok change) :
    Function.Commute blank change := by
  change orNull id (fun w => set <$> d w) v = .ok change at hupdate
  by_cases hnull : v = .null
  · rw [hnull, orNull] at hupdate
    cases hupdate
    exact Function.Commute.id_right
  · rw [orNull_of_ne_null _ _ hnull] at hupdate
    obtain ⟨a, -, rfl⟩ := Outcome.map_eq_ok.mp hupdate
    exact h a

/-- The value of a setting is null before it is set, and null sets it to that. -/
theorem ignoresNulls_optionSetting : IgnoresNulls .elsewhere format.optionSetting := by
  refine ignoresNulls_record (by decide) ⟨tolerates_field ignoresNulls_typeRef rfl,
    tolerates_field ignoresNulls_string rfl, ?value, trivial⟩
  have hupdate := ignoresNulls_map ignoresNulls_optionValue
    fun v (r : OptionSetting) => { r with value := v }
  refine ⟨hupdate, hupdate, fun _ => ⟨fun r => { r with value := .null }, rfl, rfl, ?_⟩, nofun⟩
  simp only [List.forall_mem_cons]
  refine ⟨?extension, ?path, ?self, List.forall_mem_nil _⟩
  case extension =>
    intro _ v change h
    refine commute_update_field ?_ h
    exact fun _ _ => rfl
  case path =>
    intro _ v change h
    refine commute_update_field ?_ h
    exact fun _ _ => rfl
  case self => exact fun hne => absurd rfl hne

/-- A list of settings is one of the lists that are searched throughout. -/
theorem ignoresNulls_options : IgnoresNulls .elsewhere (format.list format.optionSetting) :=
  ignoresNulls_list_elsewhere ignoresNulls_optionSetting

theorem ignoresNulls_strings : IgnoresNulls .elsewhere (format.list format.string) :=
  ignoresNulls_list_elsewhere ignoresNulls_string

theorem ignoresNulls_reservedRange : IgnoresNulls .elsewhere format.reservedRange :=
  ignoresNulls_record (by decide) ⟨tolerates_field ignoresNulls_int rfl,
    tolerates_field ignoresNulls_int rfl, trivial⟩

theorem ignoresNulls_reservedRanges : IgnoresNulls .elsewhere (format.list format.reservedRange) :=
  ignoresNulls_list_elsewhere ignoresNulls_reservedRange

theorem ignoresNulls_enumConstant : IgnoresNulls .elsewhere format.enumConstant :=
  ignoresNulls_record (by decide) ⟨tolerates_field ignoresNulls_string rfl,
    tolerates_field ignoresNulls_string rfl, tolerates_field ignoresNulls_int rfl,
    tolerates_field ignoresNulls_options rfl, trivial⟩

theorem ignoresNulls_enumType : IgnoresNulls .elsewhere format.enumType :=
  ignoresNulls_record (by decide) ⟨tolerates_field ignoresNulls_string rfl,
    tolerates_field ignoresNulls_string rfl,
    tolerates_field (ignoresNulls_list_elsewhere ignoresNulls_enumConstant) rfl,
    tolerates_field ignoresNulls_options rfl, tolerates_field ignoresNulls_reservedRanges rfl,
    tolerates_field ignoresNulls_strings rfl, trivial⟩

theorem ignoresNulls_fieldType : IgnoresNulls .elsewhere format.fieldType :=
  ignoresNulls_record (by decide) ⟨tolerates_field ignoresNulls_string rfl,
    tolerates_field ignoresNulls_string rfl, tolerates_field ignoresNulls_int rfl,
    tolerates_field ignoresNulls_typeRef rfl, tolerates_field ignoresNulls_string rfl,
    tolerates_field ignoresNulls_options rfl, trivial⟩

theorem ignoresNulls_oneof : IgnoresNulls .elsewhere format.oneof :=
  ignoresNulls_record (by decide) ⟨tolerates_field ignoresNulls_string rfl,
    tolerates_field ignoresNulls_string rfl,
    tolerates_field (ignoresNulls_list_elsewhere ignoresNulls_fieldType) rfl,
    tolerates_field ignoresNulls_options rfl, trivial⟩

/-- The induction is on how deep messages may nest; where that ends, only the shape of the value
is looked at. -/
theorem ignoresNulls_message (depth : Nat) : IgnoresNulls .elsewhere (format.message depth) := by
  induction depth with
  | zero => exact ignoresNulls_tooDeep
  | succ depth ih =>
    exact ignoresNulls_record (by decide) ⟨tolerates_field ignoresNulls_string rfl,
      tolerates_field ignoresNulls_string rfl,
      tolerates_field (ignoresNulls_list_elsewhere ignoresNulls_enumType) rfl,
      tolerates_field (ignoresNulls_list_elsewhere ih) rfl,
      tolerates_field (ignoresNulls_list_elsewhere ignoresNulls_oneof) rfl,
      tolerates_field (ignoresNulls_list_elsewhere ignoresNulls_fieldType) rfl,
      tolerates_field ignoresNulls_options rfl, tolerates_field ignoresNulls_reservedRanges rfl,
      tolerates_field ignoresNulls_strings rfl, trivial⟩

theorem ignoresNulls_method : IgnoresNulls .elsewhere format.method :=
  ignoresNulls_record (by decide) ⟨tolerates_field ignoresNulls_string rfl,
    tolerates_field ignoresNulls_string rfl, tolerates_field ignoresNulls_typeRef rfl,
    tolerates_field ignoresNulls_typeRef rfl, tolerates_field ignoresNulls_bool rfl,
    tolerates_field ignoresNulls_bool rfl, tolerates_field ignoresNulls_options rfl, trivial⟩

theorem ignoresNulls_service : IgnoresNulls .elsewhere format.service :=
  ignoresNulls_record (by decide) ⟨tolerates_field ignoresNulls_string rfl,
    tolerates_field ignoresNulls_string rfl,
    tolerates_field (ignoresNulls_list_elsewhere ignoresNulls_method) rfl,
    tolerates_field ignoresNulls_options rfl, trivial⟩

/-- The target is the fifth field, and the fifth item is a target. -/
theorem ignoresNulls_customOption : IgnoresNulls .customOption format.customOption :=
  ignoresNulls_record (by decide) ⟨tolerates_field ignoresNulls_string rfl,
    tolerates_field ignoresNulls_string rfl, tolerates_field ignoresNulls_int rfl,
    tolerates_field ignoresNulls_typeRef rfl, tolerates_target rfl,
    tolerates_field ignoresNulls_string rfl, trivial⟩

/-- Custom options are the one list whose items are pruned in another way, since they have a member
that must be given. -/
theorem ignoresNulls_customOptions :
    IgnoresNulls .customOptions (format.list format.customOption) :=
  ignoresNulls_list (by decide) fun _ => ignoresNulls_customOption

/-- **A document ignores nulls**: each field has its own site, and that of the custom options is the
exception. -/
theorem ignoresNulls_file (depth : Nat) : IgnoresNulls .document (format.file depth) :=
  ignoresNulls_record (by decide) ⟨tolerates_field ignoresNulls_string rfl,
    tolerates_field ignoresNulls_string rfl,
    tolerates_field (ignoresNulls_list_elsewhere ignoresNulls_enumType) rfl,
    tolerates_field (ignoresNulls_list_elsewhere (ignoresNulls_message depth)) rfl,
    tolerates_field (ignoresNulls_list_elsewhere ignoresNulls_service) rfl,
    tolerates_field ignoresNulls_customOptions rfl, tolerates_field ignoresNulls_options rfl,
    trivial⟩

end OfJson

/-! ## Documents -/

/-- **Null and absent are the same in documents.** A document without its null members is decoded
to the same file as the document, or refused for the same fault. Only the targets of custom
options are left as they are: under their name, or as the fifth item of an array. -/
theorem File.ofJson_pruned_document (v : Json) (h : v.Sorted) :
    File.ofJson (v.pruned .document) = File.ofJson v := by
  rw [File.ofJson, File.ofJson, Json.height_pruned]
  exact OfJson.ignoresNulls_file (v.height + 1) v h

/-- A document with nulls for its package and for the help and the type's package of a message's
field, and whose custom option is an array with a null in its target. -/
def sparseDocument : Json :=
  let field : Json := .object [
    ("help", .null), ("name", .string "id"), ("number", .int 1),
    ("type", .object [("name", .string "string"), ("package", .null)])]
  let option : Json := .array [
    .string "o", .null, .int 50000, .object [("filename", .null), ("name", .string "bool")],
    .object [("file_option", .null)], .null]
  .object [
    ("custom_options", .array [option]),
    ("messages", .array [.object [("fields", .array [field]), ("name", .string "M")]]),
    ("package", .null)]

/-- The file that it is, with and without the nulls. -/
def sparseFile : File := {
  messages := [{
    name := "M", fields := [{ name := "id", number := 1, type := { name := "string" } }] }]
  customOptions := [{
    name := "o", number := 50000, type := { name := "bool" }, target := .file }] }

theorem sorted_sparseDocument : sparseDocument.Sorted := by
  simp only [sparseDocument, Json.Sorted, Json.SortedMembers, Json.SortedItems, KeyMap.Ascending,
    Json.int, List.pairwise_cons, List.Pairwise.nil, List.mem_cons, List.not_mem_nil, or_false,
    forall_eq_or_imp, forall_eq, IsEmpty.forall_iff, implies_true, and_true, and_self]
  decide

/-- A document with nulls in a message, a field, an option value and a custom option is the same
file without them. -/
theorem ofJson_pruned_sparseDocument :
    sparseDocument.Sorted ∧ sparseDocument.pruned .document ≠ sparseDocument ∧
      File.ofJson (sparseDocument.pruned .document) = .ok sparseFile := by
  refine ⟨sorted_sparseDocument, by decide, ?_⟩
  rw [File.ofJson_pruned_document sparseDocument sorted_sparseDocument]
  rfl

/-- **A null that is taken out of a target is missed.** Away from documents pruning knows a target
by its name only; in an array it has none, and is a target no more without its null. -/
theorem ofJson_pruned_elsewhere_sparseDocument :
    sparseDocument.Sorted ∧ File.ofJson sparseDocument = .ok sparseFile ∧
      File.ofJson (sparseDocument.pruned .elsewhere) =
        .error (.invalidValue .map .singleMember) :=
  ⟨sorted_sparseDocument, rfl, rfl⟩

end Schema

end ProtoSchema
