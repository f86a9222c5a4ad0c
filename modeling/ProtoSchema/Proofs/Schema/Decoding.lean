/-
What decoding a document ensures.

The records of a document are described over a kit of decoders, so a property of all decoded
records is proved the same way: it holds of the blank record, and every field that is decoded
keeps it (`yields_record`). Here the property is that of numbers and option settings: in a
document decoded from a sorted JSON value every number, at any depth, is a signed integer of 64
bits, and every setting has a sorted value that is normal.
-/
import ProtoSchema.Proofs.Option.Nulls
import ProtoSchema.Proofs.OptionValue.Codec
import ProtoSchema.Proofs.Schema.Settings
import ProtoSchema.Schema.OfJson

set_option autoImplicit false

namespace ProtoSchema

namespace Schema

open Outcome

namespace OfJson

variable {α β ρ : Type}

/-! ## Decoders and what they yield -/

/-- **Whatever a decoder reads from a sorted value has a property.** -/
def Yields (d : OfJson α) (P : α → Prop) : Prop :=
  ∀ v : Json, v.Sorted → ∀ a, d v = .ok a → P a

/-- Whatever a field is, setting it keeps a property of the record. -/
def Keeps (P : ρ → Prop) (f : FieldDecoder OfJson ρ) : Prop :=
  Yields f.update fun change => ∀ x, P x → P (change x)

/-- What a decoder yields may be said more weakly. -/
theorem Yields.imp {d : OfJson α} {P Q : α → Prop} (h : Yields d P) (hpq : ∀ a, P a → Q a) :
    Yields d Q :=
  fun v hv a ha => hpq a (h v hv a ha)

theorem yields_true (d : OfJson α) : Yields d fun _ => True := fun _ _ _ _ => trivial

/-- A function of what is decoded has what the function makes of it. -/
theorem yields_map {d : OfJson α} {P : α → Prop} {Q : β → Prop} (h : Yields d P) {f : α → β}
    (hf : ∀ a, P a → Q (f a)) : Yields (format.map f d) Q := by
  intro v hv b hb
  obtain ⟨a, ha, rfl⟩ := map_eq_ok.mp hb
  exact hf a (h v hv a ha)

/-- A null stands for the default, so the default has to have the property too. -/
theorem yields_orNull {d : OfJson α} {P : α → Prop} {default : α} (hdefault : P default)
    (h : Yields d P) : Yields (format.orNull default d) P := by
  intro v hv a ha
  change orNull default d v = .ok a at ha
  unfold orNull at ha
  split at ha
  · cases ha
    exact hdefault
  · exact h _ hv a ha

/-- All items of a decoded list have what the items' decoder yields. -/
theorem yields_list {d : OfJson α} {P : α → Prop} (h : Yields d P) :
    Yields (format.list d) fun as => ∀ a ∈ as, P a := by
  intro v hv as has
  change list d v = .ok as at has
  unfold list at has
  split at has
  · rename_i vs
    have hitems : Json.SortedItems vs := hv
    -- the induction is on the items, so what is known of the whole array is given up
    clear hv
    induction vs generalizing as with
    | nil =>
      cases has
      simp
    | cons v vs ih =>
      obtain ⟨a, ha, has⟩ := bind_eq_ok.mp has
      obtain ⟨as', has', has⟩ := bind_eq_ok.mp has
      obtain rfl := pure_eq_ok.mp has
      exact List.forall_mem_cons.mpr ⟨h v hitems.1 a ha, ih as' has' hitems.2⟩
  · cases has

/-- A field that is left as it is for null. -/
theorem keeps_field {d : OfJson α} {P : α → Prop} {Q : ρ → Prop} (h : Yields d P) (name : String)
    {set : α → ρ → ρ} (hset : ∀ a x, P a → Q x → Q (set a x)) :
    Keeps Q (format.field name d set) :=
  yields_orNull (fun _ hx => hx) (yields_map h fun a ha x hx => hset a x ha hx)

/-- A field that takes no null keeps a property if its setter does. -/
theorem keeps_plainField {d : OfJson α} {P : α → Prop} {Q : ρ → Prop} (h : Yields d P)
    (name : String) {set : α → ρ → ρ} (hset : ∀ a x, P a → Q x → Q (set a x)) :
    Keeps Q (format.plainField name d set) :=
  yields_map h fun a ha x hx => hset a x ha hx

section Records

variable {r : RecordDecoder OfJson ρ} {P : ρ → Prop}

/-- Members change a record one after the other, so a property that all fields keep is kept by an
object. -/
theorem applyMembers_keeps (hf : ∀ f ∈ r.fields, Keeps P f) {members : List (String × Json)}
    (hs : Json.SortedMembers members) {x y : ρ} (hx : P x)
    (hy : applyMembers r members x = .ok y) : P y := by
  induction members generalizing x with
  | nil =>
    cases hy
    exact hx
  | cons m members ih =>
    obtain ⟨name, v⟩ := m
    rw [applyMembers] at hy
    cases hfield : r.field? name with
    | none =>
      -- a member that is no field is skipped
      rw [hfield] at hy
      exact ih hs.2 hx hy
    | some f =>
      rw [hfield] at hy
      obtain ⟨change, hchange, hy⟩ := bind_eq_ok.mp hy
      have hmem : f ∈ r.fields := List.mem_of_find?_eq_some hfield
      exact ih hs.2 (hf f hmem v hs.1 change hchange x hx) hy

/-- The same for a record given as an array. The induction is on the fields, since items may be
missing. -/
theorem applyItems_keeps {length : Nat} {fields : List (FieldDecoder OfJson ρ)}
    (hf : ∀ f ∈ fields, Keeps P f) {index : Nat} {vs : List Json} (hs : Json.SortedItems vs)
    {x y : ρ} (hx : P x) (hy : applyItems r length fields index vs x = .ok y) : P y := by
  induction fields generalizing index vs x with
  | nil =>
    cases vs with
    | nil =>
      cases hy
      exact hx
    | cons v vs => cases hy
  | cons f fields ih =>
    have hrest : ∀ g ∈ fields, Keeps P g := fun g hg => hf g (List.mem_cons_of_mem _ hg)
    cases vs with
    | nil =>
      -- a short array leaves the fields behind its end blank, if none of them is required
      rw [applyItems] at hy
      split at hy
      · cases hy
      · exact ih hrest hs hx hy
    | cons v vs =>
      obtain ⟨change, hchange, hy⟩ := bind_eq_ok.mp hy
      exact ih hrest hs.2 (hf f List.mem_cons_self v hs.1 change hchange x hx) hy

/-- **A record has a property** if the blank record has it and every field keeps it, whether
the record is an object or an array. -/
theorem yields_record (hblank : P r.blank) (hf : ∀ f ∈ r.fields, Keeps P f) :
    Yields (format.record r) P := by
  intro v hv y hy
  change record r v = .ok y at hy
  unfold record at hy
  split at hy
  · -- an object: its members in order, then the test for required fields
    obtain ⟨x, hx, hy⟩ := bind_eq_ok.mp hy
    split at hy
    · cases hy
    · obtain rfl := pure_eq_ok.mp hy
      exact applyMembers_keeps hf hv.2 hblank hx
  · exact applyItems_keeps hf hv hblank hy
  · cases hy

end Records

/-- A field that does not matter for the property. -/
theorem keeps_other {Q : ρ → Prop} (name : String) (d : OfJson α) {set : α → ρ → ρ}
    (hset : ∀ a x, Q x → Q (set a x)) : Keeps Q (format.field name d set) :=
  keeps_field (yields_true d) name fun a x _ hx => hset a x hx

end OfJson

/-! ## Numbers and settings of all parts -/

/-- The ends of a range that are given. -/
def ReservedRange.ends (r : ReservedRange) : List Int := r.start :: r.stop.toList

/-- **The numbers of a part**: its own, or the ends of the ranges it reserves. -/
def Part.numbers : Part → List Int
  | .message m => m.reservedRanges.flatMap ReservedRange.ends
  | .enum e => e.reservedRanges.flatMap ReservedRange.ends
  | .enumConstant c => [c.number]
  | .field f => [f.number]
  | .customOption c => [c.number]
  | .file _ | .oneof _ | .service _ | .method _ | .option _ | .typeRef _ => []

/-- **All numbers of some parts have one property, and all their settings another.** -/
def Every (N : Int → Prop) (P : OptionSetting → Prop) (parts : List Part) : Prop :=
  ∀ p ∈ parts, (∀ n ∈ p.numbers, N n) ∧ ∀ s ∈ p.settings, P s

section Every

variable {N : Int → Prop} {P : OptionSetting → Prop}

theorem every_append {ps qs : List Part} :
    Every N P (ps ++ qs) ↔ Every N P ps ∧ Every N P qs := List.forall_mem_append

/-- A part with others inside it has its own numbers and settings, and theirs. -/
theorem every_followedBy {p : Part} {inside : List Part} :
    Every N P (p.followedBy everywhere inside) ↔
      (∀ n ∈ p.numbers, N n) ∧ (∀ s ∈ p.settings, P s) ∧ Every N P inside := by
  rw [← and_assoc]
  exact List.forall_mem_cons

/-- A type reference has neither numbers nor settings. -/
theorem every_typeRef_cons {t : TypeRef} {ps : List Part} :
    Every N P (.typeRef t :: ps) ↔ Every N P ps := by
  rw [Every, List.forall_mem_cons]
  simp [Part.numbers, Part.settings, Every]

theorem every_flatMap {α : Type} {xs : List α} {f : α → List Part} :
    Every N P (xs.flatMap f) ↔ ∀ x ∈ xs, Every N P (f x) := by
  simp only [Every, List.mem_flatMap]
  exact ⟨fun h x hx p hp => h p ⟨x, hx, hp⟩, fun h p ⟨x, hx, hp⟩ => h x hx p hp⟩

/-- The parts of options have no numbers and no settings of their own. -/
theorem every_optionParts (os : List OptionSetting) : Every N P (optionParts everywhere os) := by
  rw [optionParts, every_flatMap]
  intro o _
  simp [Every, OptionSetting.parts, Part.followedBy, everywhere, Part.numbers, Part.settings]

theorem EnumConstant.every_parts {c : EnumConstant} :
    Every N P (c.parts everywhere) ↔ N c.number ∧ ∀ s ∈ c.options, P s := by
  rw [EnumConstant.parts, every_followedBy]
  simp only [Part.numbers, Part.settings, List.forall_mem_singleton, every_optionParts, and_true]

/-- An enum type has the ends of its reserved ranges, its own settings and what its constants have.
-/
theorem EnumType.every_parts {e : EnumType} :
    Every N P (e.parts everywhere) ↔
      (∀ r ∈ e.reservedRanges, ∀ n ∈ r.ends, N n) ∧ (∀ s ∈ e.options, P s) ∧
        ∀ c ∈ e.constants, Every N P (c.parts everywhere) := by
  rw [EnumType.parts, every_followedBy, every_append, every_flatMap]
  simp only [Part.numbers, Part.settings, List.forall_mem_flatMap, every_optionParts, and_true]

theorem Field.every_parts {f : Field} :
    Every N P (f.parts everywhere) ↔ N f.number ∧ ∀ s ∈ f.options, P s := by
  rw [Field.parts, every_followedBy, every_typeRef_cons]
  simp only [Part.numbers, Part.settings, List.forall_mem_singleton, every_optionParts, and_true]

/-- A oneof has no number of its own. -/
theorem Oneof.every_parts {o : Oneof} :
    Every N P (o.parts everywhere) ↔
      (∀ s ∈ o.options, P s) ∧ ∀ f ∈ o.fields, Every N P (f.parts everywhere) := by
  rw [Oneof.parts, every_followedBy, every_append, every_flatMap]
  simp only [Part.numbers, Part.settings, List.not_mem_nil, IsEmpty.forall_iff, implies_true,
    every_optionParts, and_true, true_and]

theorem Message.every_listParts {ms : List Message} :
    Every N P (Message.listParts everywhere ms) ↔ ∀ m ∈ ms, Every N P (m.parts everywhere) := by
  induction ms with
  | nil => simp [Message.listParts, Every]
  | cons m ms ih => rw [Message.listParts, every_append, ih, List.forall_mem_cons]

/-- A message has the ends of its reserved ranges, its own settings and what stands inside it,
messages among it. -/
theorem Message.every_parts {m : Message} :
    Every N P (m.parts everywhere) ↔
      (∀ r ∈ m.reservedRanges, ∀ n ∈ r.ends, N n) ∧ (∀ s ∈ m.options, P s) ∧
        (∀ e ∈ m.enums, Every N P (e.parts everywhere)) ∧
        (∀ n ∈ m.messages, Every N P (n.parts everywhere)) ∧
        (∀ o ∈ m.oneofs, Every N P (o.parts everywhere)) ∧
        ∀ f ∈ m.fields, Every N P (f.parts everywhere) := by
  obtain ⟨name, help, enums, messages, oneofs, fields, options, ranges, names⟩ := m
  simp only [Message.parts, every_followedBy, every_append, every_flatMap,
    Message.every_listParts, Part.numbers, Part.settings, List.forall_mem_flatMap,
    every_optionParts, and_true, and_assoc]

theorem Method.every_parts {m : Method} :
    Every N P (m.parts everywhere) ↔ ∀ s ∈ m.options, P s := by
  rw [Method.parts, every_followedBy, every_typeRef_cons, every_typeRef_cons]
  simp only [Part.numbers, Part.settings, List.not_mem_nil, IsEmpty.forall_iff, implies_true,
    every_optionParts, and_true, true_and]

/-- A service has its own settings and those of its methods. -/
theorem Service.every_parts {s : Service} :
    Every N P (s.parts everywhere) ↔
      (∀ o ∈ s.options, P o) ∧ ∀ m ∈ s.methods, Every N P (m.parts everywhere) := by
  rw [Service.parts, every_followedBy, every_append, every_flatMap]
  simp only [Part.numbers, Part.settings, List.not_mem_nil, IsEmpty.forall_iff, implies_true,
    every_optionParts, and_true, true_and]

/-- A custom option is declared, not set. -/
theorem CustomOption.every_parts {c : CustomOption} :
    Every N P (c.parts everywhere) ↔ N c.number := by
  rw [CustomOption.parts, every_followedBy, every_typeRef_cons]
  simp [Part.numbers, Part.settings, Every]

/-- A file has what its declarations have. Of a custom option only the number counts. -/
theorem File.every_parts {f : File} :
    Every N P (f.parts everywhere) ↔
      (∀ s ∈ f.options, P s) ∧ (∀ e ∈ f.enums, Every N P (e.parts everywhere)) ∧
        (∀ m ∈ f.messages, Every N P (m.parts everywhere)) ∧
        (∀ s ∈ f.services, Every N P (s.parts everywhere)) ∧
        ∀ c ∈ f.customOptions, N c.number := by
  simp only [File.parts, every_followedBy, every_append, every_flatMap, Message.every_listParts,
    CustomOption.every_parts, Part.numbers, Part.settings, List.not_mem_nil, IsEmpty.forall_iff,
    implies_true, every_optionParts, and_true, true_and, and_assoc]

end Every

/-! ## What a document can give -/

/-- **A signed integer of 64 bits.** -/
def IsSigned64 (n : Int) : Prop := Json.minSigned64 ≤ n ∧ n ≤ Json.maxSigned64

theorem isSigned64_zero : IsSigned64 0 := ⟨by decide, by decide⟩

/-- **A setting as a document gives it**: its value is sorted and normal. -/
structure OptionSetting.Regular (s : OptionSetting) : Prop where
  sorted : s.value.Sorted
  normal : s.value.Normal

/-- Every number of the parts is a signed integer of 64 bits, and every setting is regular. -/
abbrev Regular (parts : List Part) : Prop := Every IsSigned64 OptionSetting.Regular parts

namespace OfJson

/-- A decoded integer fits its 64 bits, since others are refused. -/
theorem yields_int : Yields format.int IsSigned64 := by
  intro v _ n hn
  change int v = .ok n at hn
  unfold int at hn
  split at hn
  · unfold Json.Number.signed64 Json.Number.bounded at hn
    split at hn
    · split at hn
      · rename_i hrange
        cases hn
        exact hrange
      · cases hn
    · cases hn
  · cases hn

/-- A decoded option value has its keys in order and is normalised. -/
theorem yields_optionValue : Yields format.optionValue fun a => a.Sorted ∧ a.Normal := by
  intro v hv a ha
  change optionValue v = .ok a at ha
  unfold optionValue at ha
  split at ha
  · rename_i b hb
    cases ha
    exact ⟨OptionValue.sorted_ofJson hv hb, OptionValue.normal_ofJson hv hb⟩
  · cases ha

/-- A setting without a value is null. -/
theorem yields_optionSetting : Yields format.optionSetting OptionSetting.Regular := by
  refine yields_record ⟨trivial, .inl rfl⟩ ?_
  simp only [List.forall_mem_cons]
  refine ⟨?_, ?_, ?value, List.forall_mem_nil _⟩
  case value => exact keeps_plainField yields_optionValue _ fun _ _ hv _ => ⟨hv.1, hv.2⟩
  all_goals exact keeps_other _ _ fun _ _ hs => ⟨hs.sorted, hs.normal⟩

/-- All settings of a decoded list are regular. -/
theorem yields_options :
    Yields (format.list format.optionSetting) fun os => ∀ s ∈ os, s.Regular :=
  yields_list yields_optionSetting

/-- The ends of a decoded range fit their 64 bits, the upper one if it is there. -/
theorem yields_reservedRange :
    Yields format.reservedRange fun r => ∀ n ∈ r.ends, IsSigned64 n := by
  have hblank : ∀ n ∈ ReservedRange.ends {}, IsSigned64 n := by
    simp only [ReservedRange.ends, Option.toList_none, List.forall_mem_singleton]
    exact isSigned64_zero
  refine yields_record hblank ?_
  simp only [List.forall_mem_cons]
  refine ⟨?start, ?stop, List.forall_mem_nil _⟩
  case start =>
    refine keeps_field yields_int _ fun n r hn hr => ?_
    exact List.forall_mem_cons.mpr ⟨hn, (List.forall_mem_cons.mp hr).2⟩
  case stop =>
    refine keeps_field yields_int _ fun n r hn hr => ?_
    have hstart := (List.forall_mem_cons.mp hr).1
    exact List.forall_mem_cons.mpr ⟨hstart, List.forall_mem_singleton.mpr hn⟩

theorem yields_reservedRanges : Yields (format.list format.reservedRange)
    fun rs => ∀ r ∈ rs, ∀ n ∈ r.ends, IsSigned64 n :=
  yields_list yields_reservedRange

-- for each kind the fields with numbers and settings are named; the others leave both alone

theorem yields_enumConstant :
    Yields format.enumConstant fun c => Regular (c.parts everywhere) := by
  refine Yields.imp (yields_record ⟨isSigned64_zero, by simp⟩ ?_)
    fun _ => EnumConstant.every_parts.mpr
  simp only [List.forall_mem_cons]
  refine ⟨?_, ?_, ?number, ?options, List.forall_mem_nil _⟩
  case number => exact keeps_field yields_int _ fun _ _ hn hc => ⟨hn, hc.2⟩
  case options => exact keeps_field yields_options _ fun _ _ hos hc => ⟨hc.1, hos⟩
  all_goals exact keeps_other _ _ fun _ _ hc => hc

/-- A decoded enum type is regular throughout. -/
theorem yields_enumType : Yields format.enumType fun e => Regular (e.parts everywhere) := by
  refine Yields.imp (yields_record (by simp) ?_) fun _ => EnumType.every_parts.mpr
  simp only [List.forall_mem_cons]
  refine ⟨?_, ?_, ?constants, ?options, ?ranges, ?_, List.forall_mem_nil _⟩
  case constants =>
    exact keeps_field (yields_list yields_enumConstant) _ fun _ _ hcs he => ⟨he.1, he.2.1, hcs⟩
  case options => exact keeps_field yields_options _ fun _ _ hos he => ⟨he.1, hos, he.2.2⟩
  case ranges => exact keeps_field yields_reservedRanges _ fun _ _ hrs he => ⟨hrs, he.2⟩
  all_goals exact keeps_other _ _ fun _ _ he => he

theorem yields_fieldType : Yields format.fieldType fun f => Regular (f.parts everywhere) := by
  refine Yields.imp (yields_record ⟨isSigned64_zero, by simp⟩ ?_) fun _ => Field.every_parts.mpr
  simp only [List.forall_mem_cons]
  refine ⟨?_, ?_, ?number, ?_, ?_, ?options, List.forall_mem_nil _⟩
  case number => exact keeps_field yields_int _ fun _ _ hn hf => ⟨hn, hf.2⟩
  case options => exact keeps_field yields_options _ fun _ _ hos hf => ⟨hf.1, hos⟩
  all_goals exact keeps_other _ _ fun _ _ hf => hf

theorem yields_oneof : Yields format.oneof fun o => Regular (o.parts everywhere) := by
  refine Yields.imp (yields_record (by simp) ?_) fun _ => Oneof.every_parts.mpr
  simp only [List.forall_mem_cons]
  refine ⟨?_, ?_, ?fields, ?options, List.forall_mem_nil _⟩
  case fields => exact keeps_field (yields_list yields_fieldType) _ fun _ _ hfs ho => ⟨ho.1, hfs⟩
  case options => exact keeps_field yields_options _ fun _ _ hos ho => ⟨hos, ho.2⟩
  all_goals exact keeps_other _ _ fun _ _ ho => ho

/-- The induction is on how deep messages may nest; at depth zero nothing is decoded. -/
theorem yields_message (depth : Nat) :
    Yields (format.message depth) fun m => Regular (m.parts everywhere) := by
  induction depth with
  | zero =>
    intro v _ m hm
    cases hm
  | succ depth ih =>
    refine Yields.imp (yields_record (by simp) ?_) fun _ => Message.every_parts.mpr
    simp only [List.forall_mem_cons]
    refine ⟨?_, ?_, ?enums, ?messages, ?oneofs, ?fields, ?options, ?ranges, ?_,
      List.forall_mem_nil _⟩
    case enums =>
      exact keeps_field (yields_list yields_enumType) _ fun _ _ hes ⟨hr, ho, _, hin⟩ =>
        ⟨hr, ho, hes, hin⟩
    case messages =>
      exact keeps_field (yields_list ih) _ fun _ _ hms ⟨hr, ho, he, _, hin⟩ =>
        ⟨hr, ho, he, hms, hin⟩
    case oneofs =>
      exact keeps_field (yields_list yields_oneof) _ fun _ _ hos ⟨hr, ho, he, hm, _, hf⟩ =>
        ⟨hr, ho, he, hm, hos, hf⟩
    case fields =>
      exact keeps_field (yields_list yields_fieldType) _ fun _ _ hfs ⟨hr, ho, he, hm, hoo, _⟩ =>
        ⟨hr, ho, he, hm, hoo, hfs⟩
    case options =>
      exact keeps_field yields_options _ fun _ _ hos ⟨hr, _, hin⟩ => ⟨hr, hos, hin⟩
    case ranges => exact keeps_field yields_reservedRanges _ fun _ _ hrs hm => ⟨hrs, hm.2⟩
    all_goals exact keeps_other _ _ fun _ _ hm => hm

theorem yields_method : Yields format.method fun m => Regular (m.parts everywhere) := by
  refine Yields.imp (yields_record (by simp) ?_) fun _ => Method.every_parts.mpr
  simp only [List.forall_mem_cons]
  refine ⟨?_, ?_, ?_, ?_, ?_, ?_, ?options, List.forall_mem_nil _⟩
  case options => exact keeps_field yields_options _ fun _ _ hos _ => hos
  all_goals exact keeps_other _ _ fun _ _ hm => hm

theorem yields_service : Yields format.service fun s => Regular (s.parts everywhere) := by
  refine Yields.imp (yields_record (by simp) ?_) fun _ => Service.every_parts.mpr
  simp only [List.forall_mem_cons]
  refine ⟨?_, ?_, ?methods, ?options, List.forall_mem_nil _⟩
  case methods => exact keeps_field (yields_list yields_method) _ fun _ _ hms hs => ⟨hs.1, hms⟩
  case options => exact keeps_field yields_options _ fun _ _ hos hs => ⟨hos, hs.2⟩
  all_goals exact keeps_other _ _ fun _ _ hs => hs

/-- Of a custom option only the number can be out of bounds. -/
theorem yields_customOption : Yields format.customOption fun c => IsSigned64 c.number := by
  refine yields_record isSigned64_zero ?_
  simp only [List.forall_mem_cons]
  refine ⟨?_, ?_, ?number, ?_, ?target, ?_, List.forall_mem_nil _⟩
  case number => exact keeps_field yields_int _ fun _ _ hn _ => hn
  case target => exact yields_map (yields_true _) fun _ _ _ hc => hc
  all_goals exact keeps_other _ _ fun _ _ hc => hc

/-- **A decoded file is regular**, in all its parts. -/
theorem yields_file (depth : Nat) :
    Yields (format.file depth) fun f => Regular (f.parts everywhere) := by
  refine Yields.imp (yields_record (by simp) ?_) fun _ => File.every_parts.mpr
  simp only [List.forall_mem_cons]
  refine ⟨?_, ?_, ?enums, ?messages, ?services, ?customOptions, ?options, List.forall_mem_nil _⟩
  case enums =>
    exact keeps_field (yields_list yields_enumType) _ fun _ _ hes ⟨ho, _, hin⟩ => ⟨ho, hes, hin⟩
  case messages =>
    exact keeps_field (yields_list (yields_message depth)) _ fun _ _ hms ⟨ho, he, _, hin⟩ =>
      ⟨ho, he, hms, hin⟩
  case services =>
    exact keeps_field (yields_list yields_service) _ fun _ _ hss ⟨ho, he, hm, _, hc⟩ =>
      ⟨ho, he, hm, hss, hc⟩
  case customOptions =>
    exact keeps_field (yields_list yields_customOption) _ fun _ _ hcs ⟨ho, he, hm, hs, _⟩ =>
      ⟨ho, he, hm, hs, hcs⟩
  case options => exact keeps_field yields_options _ fun _ _ hos hf => ⟨hos, hf.2⟩
  all_goals exact keeps_other _ _ fun _ _ hf => hf

end OfJson

/-- **A decoded document is regular**: its numbers are signed integers of 64 bits, and the values
of its settings are sorted and normal. -/
theorem File.regular_of_ofJson {v : Json} {f : File} (hv : v.Sorted) (h : File.ofJson v = .ok f) :
    Regular (f.parts everywhere) :=
  OfJson.yields_file (v.height + 1) v hv f h

/-- A normalised value has no nulls inside. -/
theorem OptionSetting.Regular.plain {s : OptionSetting} (h : s.Regular) : OptionMerge.Plain s :=
  ⟨h.sorted, h.normal.imp_right OptionValue.NullFree.hasNull_eq_false⟩

/-- In a decoded document every setting is plain. -/
theorem File.plain_of_ofJson {v : Json} {f : File} (hv : v.Sorted) (h : File.ofJson v = .ok f) :
    ∀ p ∈ f.parts everywhere, ∀ s ∈ p.settings, OptionMerge.Plain s :=
  fun p hp s hs => ((File.regular_of_ofJson hv h p hp).2 s hs).plain

end Schema

end ProtoSchema
