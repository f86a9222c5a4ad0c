/-
Documents written and read back.

A document is written with the members of every record in the order in which the record lists
its fields, and read with the members ascending. That the two agree rests on one fact about
decoding: each member changes a field of its own, the changes commute, and so the order in which
members stand does not matter (`applyMembers_perm`). A record is then read back as soon as each
of its fields is (`reads_record`), and what is left for each kind of record is to name the
decoder and the value of every field, in the order of the record.

A value is written exactly like the field's decoder reads it, with two exceptions. A number has
to be a signed integer of 64 bits, and the value of an option setting has to be normal and
sorted. Decoding gives nothing else (`File.regular_of_ofJson`), so whatever was decoded once is
read back unchanged.
-/
import Mathlib.Data.List.Pairwise
import Mathlib.Data.List.Perm.Basic
import ProtoSchema.Proofs.Json.Sorted
import ProtoSchema.Proofs.Schema.Decoding
import ProtoSchema.Schema.ToJson

set_option autoImplicit false

namespace ProtoSchema

namespace Schema

open Outcome

namespace OfJson

variable {α ρ : Type}

/-! ## The order of members -/

/-- The change that a member makes to a record. -/
def Changes (r : RecordDecoder OfJson ρ) (m : String × Json) (change : ρ → ρ) : Prop :=
  ∃ f, r.field? m.1 = some f ∧ f.update m.2 = .ok change

/-- The record after several changes. -/
def changed (changes : List (ρ → ρ)) (x : ρ) : ρ := changes.foldl (fun x change => change x) x

/-- Members that are all read make their changes one after the other, in the order in which they
stand. -/
theorem applyMembers_eq_ok {r : RecordDecoder OfJson ρ} {members : List (String × Json)}
    {changes : List (ρ → ρ)} (h : List.Forall₂ (Changes r) members changes) (x : ρ) :
    applyMembers r members x = .ok (changed changes x) := by
  induction h generalizing x with
  | nil => rfl
  | @cons m change members changes hm _ ih =>
    obtain ⟨name, v⟩ := m
    obtain ⟨f, hfield, hupdate⟩ := hm
    rw [applyMembers, hfield]
    exact bind_eq_ok.mpr ⟨change, hupdate, ih (change x)⟩

/-- Changes that commute can be made in any order. -/
theorem changed_perm {changes others : List (ρ → ρ)} (h : changes.Perm others)
    (hcomm : others.Pairwise Function.Commute) (x : ρ) : changed changes x = changed others x := by
  have hsymm : Std.Symm (Function.Commute (α := ρ)) := ⟨fun _ _ hcd => hcd.symm⟩
  refine (h.symm.foldl_eq' ?_ x).symm
  intro c hc d hd y
  exact hcomm.forall_of_forall (fun e _ => Function.Commute.refl e) hd hc y

/-- **The order of members does not matter** if their changes commute. -/
theorem applyMembers_perm {r : RecordDecoder OfJson ρ} {members others : List (String × Json)}
    {changes : List (ρ → ρ)} (hperm : others.Perm members)
    (h : List.Forall₂ (Changes r) members changes) (hcomm : changes.Pairwise Function.Commute)
    (x : ρ) : applyMembers r others x = .ok (changed changes x) := by
  obtain ⟨changes', hothers, hperm'⟩ := List.perm_comp_forall₂ hperm h
  rw [applyMembers_eq_ok hothers, changed_perm hperm' hcomm]

/-! ## Reading back -/

/-- **A value is read back**: it is not null, and the decoder takes its sorted form for `a`. -/
structure Reads (d : OfJson α) (v : Json) (a : α) : Prop where
  ne_null : v.sorted ≠ .null
  eq_ok : d v.sorted = .ok a

theorem reads_string (s : String) : Reads format.string (.string s) s := ⟨nofun, rfl⟩

theorem reads_bool (b : Bool) : Reads format.bool (.bool b) b := ⟨nofun, rfl⟩

/-- An integer is read back if it fits its 64 bits. -/
theorem reads_int {n : Int} (h : IsSigned64 n) : Reads format.int (.int n) n :=
  ⟨nofun, if_pos h⟩

theorem reads_target (t : OptionTarget) :
    Reads (format.variant OptionTarget.names) (.string t.name) t := by
  refine ⟨nofun, ?_⟩
  cases t <;> rfl

/-- A list is read back if each of its items is. -/
theorem reads_list {d : OfJson α} {encode : α → Json} {as : List α}
    (h : ∀ a ∈ as, Reads d (encode a) a) :
    Reads (format.list d) (.array (as.map encode)) as := by
  refine ⟨nofun, ?_⟩
  have hitems : items d (Json.sortedItems (as.map encode)) = .ok as := by
    induction as with
    | nil => rfl
    | cons a as ih =>
      obtain ⟨ha, has⟩ := List.forall_mem_cons.mp h
      exact bind_eq_ok.mpr ⟨a, ha.eq_ok, bind_eq_ok.mpr ⟨as, ih has, rfl⟩⟩
  exact hitems

theorem reads_strings (ss : List String) : Reads (format.list format.string) (.strings ss) ss :=
  reads_list fun s _ => reads_string s

/-! ## Records -/

/-- A written field sets its value again. -/
theorem update_field {d : OfJson α} {v : Json} {a : α} (h : Reads d v a) {name : String}
    {set : α → ρ → ρ} : (format.field name d set).update v.sorted = .ok (set a) := by
  have hne := h.ne_null
  have hread : format.orNull id (format.map set d) v.sorted = format.map set d v.sorted := by
    change orNull id (format.map set d) v.sorted = _
    unfold orNull
    split
    · contradiction
    · rfl
  exact hread.trans (map_eq_ok.mpr ⟨a, h.eq_ok, rfl⟩)

/-- A null leaves the field as it is. -/
theorem update_field_null {d : OfJson α} {name : String} {set : α → ρ → ρ} :
    (format.field name d set).update Json.null.sorted = .ok id := rfl

theorem update_plainField {d : OfJson α} {v : Json} {a : α} (h : d v = .ok a) {name : String}
    {set : α → ρ → ρ} : (format.plainField name d set).update v = .ok (set a) :=
  map_eq_ok.mpr ⟨a, h, rfl⟩

theorem update_requiredField {d : OfJson α} {v : Json} {a : α} (h : d v = .ok a) {name : String}
    {set : α → ρ → ρ} : (format.requiredField name d set).update v = .ok (set a) :=
  map_eq_ok.mpr ⟨a, h, rfl⟩

/-- **A record written field by field**: the members carry the names of the fields, and each
field takes its member for a change. -/
inductive Writes : List (FieldDecoder OfJson ρ) → List (String × Json) → List (ρ → ρ) → Prop where
  | nil : Writes [] [] []
  | cons {f : FieldDecoder OfJson ρ} {v : Json} {change : ρ → ρ}
      {fields : List (FieldDecoder OfJson ρ)} {members : List (String × Json)}
      {changes : List (ρ → ρ)} (h : f.update v.sorted = .ok change)
      (rest : Writes fields members changes) :
      Writes (f :: fields) ((f.name, v) :: members) (change :: changes)

namespace Writes

variable {fields : List (FieldDecoder OfJson ρ)} {members : List (String × Json)}
  {changes : List (ρ → ρ)}

/-- The members of a written record have the names of its fields, in their order. -/
theorem keys_eq (h : Writes fields members changes) :
    KeyMap.keys members = fields.map FieldDecoder.name := by
  induction h with
  | nil => rfl
  | cons _ _ ih => exact congrArg _ ih

/-- With distinct names every member finds its own field. -/
theorem forall₂_changes {r : RecordDecoder OfJson ρ} (h : Writes fields members changes)
    (hfield : ∀ f ∈ fields, r.field? f.name = some f) :
    List.Forall₂ (Changes r) (members.map fun m => (m.1, m.2.sorted)) changes := by
  induction h with
  | nil => exact .nil
  | @cons f v change fields members changes hupdate _ ih =>
    obtain ⟨hf, hrest⟩ := List.forall_mem_cons.mp hfield
    exact .cons ⟨f, hf, hupdate⟩ (ih hrest)

end Writes

/-- A field is found by its name if no two have the same. -/
theorem field?_of_nodup {r : RecordDecoder OfJson ρ}
    (hnodup : (r.fields.map FieldDecoder.name).Nodup) {f : FieldDecoder OfJson ρ}
    (hf : f ∈ r.fields) : r.field? f.name = some f := by
  unfold RecordDecoder.field?
  generalize r.fields = fields at hnodup hf
  induction fields with
  | nil => cases hf
  | cons g fields ih =>
    obtain ⟨hg, hrest⟩ := List.nodup_cons.mp hnodup
    rcases List.mem_cons.mp hf with rfl | hmem
    · exact List.find?_cons_of_pos (beq_self_eq_true f.name)
    · have hne : g.name ≠ f.name := fun heq => hg (heq ▸ List.mem_map_of_mem hmem)
      rw [List.find?_cons_of_neg (by simpa using hne)]
      exact ih hrest hmem

/-- **A record is read back if each of its fields is**, in whatever order the members end up. -/
theorem reads_record {r : RecordDecoder OfJson ρ} {members : List (String × Json)}
    {changes : List (ρ → ρ)} {y : ρ} (h : Writes r.fields members changes)
    (hnodup : (r.fields.map FieldDecoder.name).Nodup)
    (hcomm : changes.Pairwise Function.Commute) (hy : changed changes r.blank = y) :
    Reads (format.record r) (.object members) y := by
  refine ⟨nofun, ?_⟩
  have hkeys : (KeyMap.keys members).Nodup := by
    rw [h.keys_eq]
    exact hnodup
  -- the members are sorted by name before they are read; their changes commute, so nothing is lost
  obtain ⟨ms, hms, hperm⟩ := Json.sorted_object_perm hkeys
  have hchanges := h.forall₂_changes fun f hf => field?_of_nodup hnodup hf
  have hnames : ∀ f ∈ r.fields, f.name ∈ ms.map Prod.fst := by
    intro f hf
    rw [(hperm.map Prod.fst).mem_iff, List.map_map]
    change f.name ∈ KeyMap.keys members
    rw [h.keys_eq]
    exact List.mem_map_of_mem hf
  have hmissing : r.missing? (ms.map Prod.fst) = none := by
    refine List.find?_eq_none.mpr fun f hf => ?_
    simp [hnames f hf]
  rw [hms]
  refine bind_eq_ok.mpr ⟨y, ?_, ?_⟩
  · rw [applyMembers_perm hperm hchanges hcomm, hy]
  · rw [hmissing]
    rfl

theorem commute_iff {change other : ρ → ρ} :
    Function.Commute change other ↔ ∀ x, change (other x) = other (change x) := Iff.rfl

/-! ## The kinds of records

For each kind: the values of its fields in order, that their names are distinct and that their
changes commute. -/

theorem reads_typeRef (t : TypeRef) : Reads format.typeRef t.toJson t := by
  refine reads_record (.cons (update_field (reads_string t.name)) <|
    .cons (update_field (reads_string t.filename)) <|
    .cons (update_field (reads_string t.package)) .nil) ?_ ?_ rfl
  · simp [Format.field]
  · simp [commute_iff]

/-- A value that could have been decoded is read back from its written form. -/
theorem optionValue_sorted_toJson {v : OptionValue} (hsorted : v.Sorted) (hnormal : v.Normal) :
    format.optionValue v.toJson.sorted = .ok v := by
  change optionValue v.toJson.sorted = .ok v
  rw [optionValue, Json.sorted_eq_self (OptionValue.sorted_toJson hsorted),
    (OptionValue.ofJson_toJson_eq_ok_iff v).mpr hnormal]

/-- **A setting is read back** with all its members, the value as it was. -/
theorem reads_optionSetting {o : OptionSetting} (h : o.Regular) :
    Reads format.optionSetting o.toJson o := by
  have hvalue := optionValue_sorted_toJson h.sorted h.normal
  refine reads_record (.cons (update_field (reads_typeRef o.extension)) <|
    .cons (update_field (reads_string o.path)) <|
    .cons (update_plainField hvalue) .nil) ?_ ?_ rfl
  · simp [Format.field, Format.plainField]
  · simp [commute_iff]

theorem reads_options {os : List OptionSetting} (h : ∀ o ∈ os, o.Regular) :
    Reads (format.list format.optionSetting) (optionsToJson os) os :=
  reads_list fun o ho => reads_optionSetting (h o ho)

/-- A range without an end is written with a null, which leaves the end open. -/
theorem reads_reservedRange {r : ReservedRange} (h : ∀ n ∈ r.ends, IsSigned64 n) :
    Reads format.reservedRange r.toJson r := by
  obtain ⟨start, stop⟩ := r
  have hstart : IsSigned64 start := h start List.mem_cons_self
  cases stop with
  | none =>
    -- an open range is written with a null stop, which is read as none
    refine reads_record (.cons (update_field (reads_int hstart)) <|
      .cons update_field_null .nil) ?_ ?_ rfl
    · simp [Format.field]
    · simp [commute_iff]
  | some stop =>
    have hstop : IsSigned64 stop := h stop (List.mem_cons_of_mem _ List.mem_cons_self)
    refine reads_record (.cons (update_field (reads_int hstart)) <|
      .cons (update_field (reads_int hstop)) .nil) ?_ ?_ rfl
    · simp [Format.field]
    · simp [commute_iff]

theorem reads_reservedRanges {rs : List ReservedRange}
    (h : ∀ r ∈ rs, ∀ n ∈ r.ends, IsSigned64 n) :
    Reads (format.list format.reservedRange) (.array (rs.map ReservedRange.toJson)) rs :=
  reads_list fun r hr => reads_reservedRange (h r hr)

theorem reads_enumConstant {c : EnumConstant} (h : Regular (c.parts everywhere)) :
    Reads format.enumConstant c.toJson c := by
  obtain ⟨hnumber, hoptions⟩ := EnumConstant.every_parts.mp h
  refine reads_record (.cons (update_field (reads_string c.name)) <|
    .cons (update_field (reads_string c.help)) <| .cons (update_field (reads_int hnumber)) <|
    .cons (update_field (reads_options hoptions)) .nil) ?_ ?_ rfl
  · simp [Format.field]
  · simp [commute_iff]

/-- **An enum type is read back**, constants and reserved ranges included. -/
theorem reads_enumType {e : EnumType} (h : Regular (e.parts everywhere)) :
    Reads format.enumType e.toJson e := by
  obtain ⟨hranges, hoptions, hconstants⟩ := EnumType.every_parts.mp h
  have hcs := reads_list fun c hc => reads_enumConstant (hconstants c hc)
  refine reads_record (.cons (update_field (reads_string e.name)) <|
    .cons (update_field (reads_string e.help)) <| .cons (update_field hcs) <|
    .cons (update_field (reads_options hoptions)) <|
    .cons (update_field (reads_reservedRanges hranges)) <|
    .cons (update_field (reads_strings e.reservedNames)) .nil) ?_ ?_ rfl
  · simp [Format.field]
  · simp [commute_iff]

/-- **A field is read back**, whether it has a label or not. -/
theorem reads_fieldType {f : Field} (h : Regular (f.parts everywhere)) :
    Reads format.fieldType f.toJson f := by
  obtain ⟨hnumber, hoptions⟩ := Field.every_parts.mp h
  refine reads_record (.cons (update_field (reads_string f.name)) <|
    .cons (update_field (reads_string f.help)) <| .cons (update_field (reads_int hnumber)) <|
    .cons (update_field (reads_typeRef f.type)) <| .cons (update_field (reads_string f.label)) <|
    .cons (update_field (reads_options hoptions)) .nil) ?_ ?_ rfl
  · simp [Format.field]
  · simp [commute_iff]

theorem reads_fields {fs : List Field} (h : ∀ f ∈ fs, Regular (f.parts everywhere)) :
    Reads (format.list format.fieldType) (.array (fs.map Field.toJson)) fs :=
  reads_list fun f hf => reads_fieldType (h f hf)

theorem reads_oneof {o : Oneof} (h : Regular (o.parts everywhere)) :
    Reads format.oneof o.toJson o := by
  obtain ⟨hoptions, hfields⟩ := Oneof.every_parts.mp h
  refine reads_record (.cons (update_field (reads_string o.name)) <|
    .cons (update_field (reads_string o.help)) <| .cons (update_field (reads_fields hfields)) <|
    .cons (update_field (reads_options hoptions)) .nil) ?_ ?_ rfl
  · simp [Format.field]
  · simp [commute_iff]

theorem reads_enums {es : List EnumType} (h : ∀ e ∈ es, Regular (e.parts everywhere)) :
    Reads (format.list format.enumType) (.array (es.map EnumType.toJson)) es :=
  reads_list fun e he => reads_enumType (h e he)

/-- Messages are written one by one. -/
theorem listToJson_eq_map (ms : List Message) : Message.listToJson ms = ms.map Message.toJson := by
  induction ms with
  | nil => rfl
  | cons m ms ih => rw [Message.listToJson, ih, List.map_cons]

/-- A message lies two levels deeper than the record that lists it. -/
theorem height_lt_of_mem {members : List (String × Json)} (hnodup : (KeyMap.keys members).Nodup)
    {ms : List Message} (hms : ("messages", Json.array (Message.listToJson ms)) ∈ members)
    {m : Message} (hm : m ∈ ms) :
    m.toJson.sorted.height + 1 < (Json.object members).sorted.height := by
  have hlist : m.toJson ∈ Message.listToJson ms := by
    rw [listToJson_eq_map]
    exact List.mem_map_of_mem hm
  have harray := Json.height_sorted_lt_array hlist
  have hobject := Json.height_sorted_lt_object hnodup hms
  omega

/-- A nested message is written two levels below its message: inside a list, inside an object. -/
theorem height_nested_lt {m n : Message} (h : n ∈ m.messages) :
    n.toJson.sorted.height + 1 < m.toJson.sorted.height := by
  obtain ⟨name, help, enums, messages, oneofs, fields, options, ranges, names⟩ := m
  rw [Message.toJson.eq_1 name]
  refine height_lt_of_mem ?_ ?_ h
  · simp [KeyMap.keys]
  · simp

/-- The induction is on how deep messages may nest, which the height of their values bounds. -/
theorem reads_message {m : Message} {depth : Nat} (hdepth : m.toJson.sorted.height ≤ depth)
    (h : Regular (m.parts everywhere)) : Reads (format.message depth) m.toJson m := by
  induction depth generalizing m with
  | zero =>
    obtain ⟨name, help, enums, messages, oneofs, fields, options, ranges, names⟩ := m
    -- an object has a height of at least one
    rw [Message.toJson, Json.sorted, Json.height] at hdepth
    omega
  | succ depth ih =>
    obtain ⟨hranges, hoptions, henums, hmessages, honeofs, hfields⟩ := Message.every_parts.mp h
    have hos := reads_list fun o ho => reads_oneof (honeofs o ho)
    have hms := reads_list fun n hn =>
      have hlt := height_nested_lt hn
      ih (by omega) (hmessages n hn)
    obtain ⟨name, help, enums, messages, oneofs, fields, options, ranges, names⟩ := m
    rw [← listToJson_eq_map] at hms
    rw [Message.toJson]
    refine reads_record (.cons (update_field (reads_string name)) <|
      .cons (update_field (reads_string help)) <| .cons (update_field (reads_enums henums)) <|
      .cons (update_field hms) <| .cons (update_field hos) <|
      .cons (update_field (reads_fields hfields)) <|
      .cons (update_field (reads_options hoptions)) <|
      .cons (update_field (reads_reservedRanges hranges)) <|
      .cons (update_field (reads_strings names)) .nil) ?_ ?_ rfl
    · simp [Format.field]
    · simp [commute_iff]

theorem reads_method {m : Method} (h : Regular (m.parts everywhere)) :
    Reads format.method m.toJson m := by
  refine reads_record (.cons (update_field (reads_string m.name)) <|
    .cons (update_field (reads_string m.help)) <| .cons (update_field (reads_typeRef m.input)) <|
    .cons (update_field (reads_typeRef m.output)) <|
    .cons (update_field (reads_bool m.clientStreaming)) <|
    .cons (update_field (reads_bool m.serverStreaming)) <|
    .cons (update_field (reads_options (Method.every_parts.mp h))) .nil) ?_ ?_ rfl
  · simp [Format.field]
  · simp [commute_iff]

theorem reads_service {s : Service} (h : Regular (s.parts everywhere)) :
    Reads format.service s.toJson s := by
  obtain ⟨hoptions, hmethods⟩ := Service.every_parts.mp h
  have hms := reads_list fun m hm => reads_method (hmethods m hm)
  refine reads_record (.cons (update_field (reads_string s.name)) <|
    .cons (update_field (reads_string s.help)) <| .cons (update_field hms) <|
    .cons (update_field (reads_options hoptions)) .nil) ?_ ?_ rfl
  · simp [Format.field]
  · simp [commute_iff]

theorem reads_customOption {c : CustomOption} (h : IsSigned64 c.number) :
    Reads format.customOption c.toJson c := by
  refine reads_record (.cons (update_field (reads_string c.name)) <|
    .cons (update_field (reads_string c.help)) <| .cons (update_field (reads_int h)) <|
    .cons (update_field (reads_typeRef c.type)) <|
    .cons (update_requiredField (reads_target c.target).eq_ok) <|
    .cons (update_field (reads_string c.label)) .nil) ?_ ?_ rfl
  · simp [Format.field, Format.requiredField]
  · simp [commute_iff]

/-- A message is written two levels below its file. -/
theorem height_message_lt {f : File} {m : Message} (h : m ∈ f.messages) :
    m.toJson.sorted.height + 1 < f.toJson.sorted.height := by
  refine height_lt_of_mem ?_ ?_ h
  · simp [KeyMap.keys]
  · simp

/-- **A file is read back** if the nesting allowed is at least that of its written form. -/
theorem reads_file {f : File} {depth : Nat} (hdepth : f.toJson.sorted.height ≤ depth)
    (h : Regular (f.parts everywhere)) : Reads (format.file depth) f.toJson f := by
  obtain ⟨hoptions, henums, hmessages, hservices, hcustom⟩ := File.every_parts.mp h
  have hss := reads_list fun s hs => reads_service (hservices s hs)
  have hcs := reads_list fun c hc => reads_customOption (hcustom c hc)
  have hms : Reads (format.list (format.message depth))
      (.array (Message.listToJson f.messages)) f.messages := by
    rw [listToJson_eq_map]
    refine reads_list fun m hm => reads_message ?_ (hmessages m hm)
    have hlt := height_message_lt hm
    omega
  refine reads_record (.cons (update_field (reads_string f.name)) <|
    .cons (update_field (reads_string f.package)) <| .cons (update_field (reads_enums henums)) <|
    .cons (update_field hms) <| .cons (update_field hss) <| .cons (update_field hcs) <|
    .cons (update_field (reads_options hoptions)) .nil) ?_ ?_ rfl
  · simp [Format.field]
  · simp [commute_iff]

end OfJson

namespace File

/-- **Documents that fit their types**: numbers are signed integers of 64 bits, and the keys of
mappings strictly ascend. -/
def FitsTypes (f : File) : Prop := Every IsSigned64 (fun s => s.value.Sorted) (f.parts everywhere)

/-- **Every option value of a document is normal.** -/
def HasNormalOptions (f : File) : Prop :=
  ∀ p ∈ f.parts everywhere, ∀ s ∈ p.settings, s.value.Normal

/-- A file is regular exactly if its numbers fit their types and its option values are normalised.
-/
theorem regular_iff {f : File} :
    Regular (f.parts everywhere) ↔ f.FitsTypes ∧ f.HasNormalOptions := by
  constructor
  · intro h
    exact ⟨fun p hp => ⟨(h p hp).1, fun s hs => ((h p hp).2 s hs).sorted⟩,
      fun p hp s hs => ((h p hp).2 s hs).normal⟩
  · rintro ⟨hfits, hnormal⟩ p hp
    exact ⟨(hfits p hp).1, fun s hs => ⟨(hfits p hp).2 s hs, hnormal p hp s hs⟩⟩

/-- A regular file is read back at the nesting of its own written form. -/
theorem ofJson_sorted_toJson {f : File} (h : Regular (f.parts everywhere)) :
    ofJson f.toJson.sorted = .ok f :=
  (OfJson.reads_file (Nat.le_succ _) h).eq_ok

/-- **Documents round-trip.** A document whose option values are normal is decoded from what it
is encoded as; and a decoded document is such a one, so that it is encoded and decoded again
without change. -/
theorem round_trip :
    (∀ f : File, f.FitsTypes → f.HasNormalOptions → ofJson f.toJson.sorted = .ok f) ∧
    ∀ (v : Json) (f : File), v.Sorted → ofJson v = .ok f →
      f.FitsTypes ∧ f.HasNormalOptions ∧ ofJson f.toJson.sorted = .ok f := by
  constructor
  · intro f hfits hnormal
    exact ofJson_sorted_toJson (regular_iff.mpr ⟨hfits, hnormal⟩)
  · intro v f hv hf
    have hregular := regular_of_ofJson hv hf
    obtain ⟨hfits, hnormal⟩ := regular_iff.mp hregular
    exact ⟨hfits, hnormal, ofJson_sorted_toJson hregular⟩

/-- A document with a nested message that reserves an open range, and a field whose option holds
an enum constant under the marker's name, and a null. -/
def nestedDocument : Json :=
  let constant : Json := .object [
    ("name", .string "RED"), (OptionValue.markerKey, .string OptionValue.enumMarker)]
  let setting : Json := .object [
    ("type", .object [("name", .string "o")]),
    ("value", .object [("none", .null), (OptionValue.markerKey, constant)])]
  let field : Json := .object [("number", .int 7), ("options", .array [setting])]
  let inner : Json := .object [
    ("name", .string "Inner"), ("reserved_ranges", .array [.object [("start", .int 5)]])]
  .object [("messages", .array [.object [
    ("fields", .array [field]), ("messages", .array [inner])]])]

/-- The document that it is: the null is gone, and all that it leaves out is blank. -/
def nestedFile : File := {
  messages := [{
    messages := [{ name := "Inner", reservedRanges := [{ start := 5 }] }]
    fields := [{
      number := 7
      options := [{
        extension := .here "o"
        value := .mapping [(OptionValue.markerKey, .enumLiteral "RED")] }] }] }] }

theorem sorted_nestedDocument : nestedDocument.Sorted := by
  simp only [nestedDocument, Json.Sorted, Json.SortedMembers, Json.SortedItems, KeyMap.Ascending,
    Json.int, List.pairwise_cons, List.Pairwise.nil, List.mem_cons, List.not_mem_nil, or_false,
    forall_eq, IsEmpty.forall_iff, implies_true, and_true, and_self]
  decide

/-- It is decoded, has only normal options, and is encoded and decoded again without change. -/
theorem round_trip_nestedDocument :
    nestedDocument.Sorted ∧ ofJson nestedDocument = .ok nestedFile ∧ nestedFile.FitsTypes ∧
      nestedFile.HasNormalOptions ∧ ofJson nestedFile.toJson.sorted = .ok nestedFile := by
  have hread : ofJson nestedDocument = .ok nestedFile := rfl
  obtain ⟨hfits, hnormal, -⟩ := round_trip.2 _ _ sorted_nestedDocument hread
  exact ⟨sorted_nestedDocument, hread, hfits, hnormal, round_trip.1 nestedFile hfits hnormal⟩

end File

end Schema

end ProtoSchema
