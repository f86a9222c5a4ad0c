/-
Documents that differ in the order of their lists.

In a document the order of some lists carries no meaning: reserved ranges and names are sets,
and options matter in their order only among options of one name. A document is a reordering
of another one (`File.Reordered`) if it differs in these lists alone, at any depth and in any
number of places. Compiling does not see the difference: both documents compile to the same
text, or neither compiles.

Every stage forgets the order by itself. Merging options, normalizing what is reserved and
collecting imports are settled in their own modules; what is left here is that lowering and the
traversal meet corresponding parts in corresponding places.
-/
import Mathlib.Data.List.Forall2
import ProtoSchema.Proofs.Imports
import ProtoSchema.Proofs.Option.Groups
import ProtoSchema.Proofs.Reserved.Names
import ProtoSchema.Proofs.Schema.Compiling

set_option autoImplicit false

namespace ProtoSchema

namespace Schema

open OptionMerge (SameGroups)
open Outcome

/-! ## Reorderings -/

def EnumConstant.Reordered (c c' : EnumConstant) : Prop :=
  ∃ options, SameGroups c.options options ∧ c' = { c with options }

def EnumType.Reordered (e e' : EnumType) : Prop :=
  ∃ constants options reservedRanges reservedNames,
    List.Forall₂ EnumConstant.Reordered e.constants constants ∧
    SameGroups e.options options ∧
    e.reservedRanges.Perm reservedRanges ∧ e.reservedNames.Perm reservedNames ∧
    e' = { e with constants, options, reservedRanges, reservedNames }

def Field.Reordered (f f' : Field) : Prop :=
  ∃ options, SameGroups f.options options ∧ f' = { f with options }

def Oneof.Reordered (o o' : Oneof) : Prop :=
  ∃ fields options, List.Forall₂ Field.Reordered o.fields fields ∧
    SameGroups o.options options ∧ o' = { o with fields, options }

/-- Messages reordered at any depth. -/
inductive Message.Reordered : Message → Message → Prop where
  | intro {m : Message} {enums : List EnumType} {messages : List Message} {oneofs : List Oneof}
    {fields : List Field} {options : List OptionSetting} {reservedRanges : List ReservedRange}
    {reservedNames : List String}
    (henums : List.Forall₂ EnumType.Reordered m.enums enums)
    (hmessages : List.Forall₂ Message.Reordered m.messages messages)
    (honeofs : List.Forall₂ Oneof.Reordered m.oneofs oneofs)
    (hfields : List.Forall₂ Field.Reordered m.fields fields)
    (hoptions : SameGroups m.options options)
    (hranges : m.reservedRanges.Perm reservedRanges)
    (hnames : m.reservedNames.Perm reservedNames) :
    Message.Reordered m
      { m with enums, messages, oneofs, fields, options, reservedRanges, reservedNames }

def Method.Reordered (m m' : Method) : Prop :=
  ∃ options, SameGroups m.options options ∧ m' = { m with options }

def Service.Reordered (s s' : Service) : Prop :=
  ∃ methods options, List.Forall₂ Method.Reordered s.methods methods ∧
    SameGroups s.options options ∧ s' = { s with methods, options }

/-- **Documents that differ only in the order of reserved ranges, reserved names and options of
different names**, at any depth. -/
def File.Reordered (f f' : File) : Prop :=
  ∃ enums messages services options,
    List.Forall₂ EnumType.Reordered f.enums enums ∧
    List.Forall₂ Message.Reordered f.messages messages ∧
    List.Forall₂ Service.Reordered f.services services ∧
    SameGroups f.options options ∧
    f' = { f with enums, messages, services, options }

/-! ## Lowering -/

/-- Lists that correspond item by item have the same image, if corresponding items do. -/
theorem map_eq_of_forall₂ {α β : Type} {R : α → α → Prop} {xs ys : List α}
    (h : List.Forall₂ R xs ys) {f : α → β} (hf : ∀ x y, R x y → f x = f y) :
    xs.map f = ys.map f := by
  induction h with
  | nil => rfl
  | cons hxy _ ih => rw [List.map_cons, List.map_cons, hf _ _ hxy, ih]

theorem EnumConstant.Reordered.lower_eq {c c' : EnumConstant} (h : c.Reordered c') :
    c.lower = c'.lower := by
  obtain ⟨options, ho, rfl⟩ := h
  simp only [EnumConstant.lower, ho.mergeOptions_eq]

theorem Field.Reordered.lower_eq {f f' : Field} (h : f.Reordered f') : f.lower = f'.lower := by
  obtain ⟨options, ho, rfl⟩ := h
  simp only [Field.lower, ho.mergeOptions_eq]

theorem Oneof.Reordered.lower_eq {o o' : Oneof} (h : o.Reordered o') : o.lower = o'.lower := by
  obtain ⟨fields, options, hf, ho, rfl⟩ := h
  simp only [Oneof.lower, ho.mergeOptions_eq,
    map_eq_of_forall₂ hf (fun _ _ => Field.Reordered.lower_eq)]

theorem Method.Reordered.lower_eq {m m' : Method} (h : m.Reordered m') : m.lower = m'.lower := by
  obtain ⟨options, ho, rfl⟩ := h
  simp only [Method.lower, ho.mergeOptions_eq]

theorem Service.Reordered.lower_eq {s s' : Service} (h : s.Reordered s') :
    s.lower = s'.lower := by
  obtain ⟨methods, options, hm, ho, rfl⟩ := h
  simp only [Service.lower, ho.mergeOptions_eq,
    map_eq_of_forall₂ hm (fun _ _ => Method.Reordered.lower_eq)]

/-- Whether an enum lacks a zero constant is seen from the numbers alone. -/
theorem EnumType.addedConstants_eq (e e' : EnumType) (hname : e.name = e'.name)
    (h : List.Forall₂ EnumConstant.Reordered e.constants e'.constants) :
    e.addedConstants = e'.addedConstants := by
  -- only the numbers decide whether a zero constant is added
  have hnumbers : e.constants.map EnumConstant.number = e'.constants.map EnumConstant.number := by
    refine map_eq_of_forall₂ h ?_
    rintro c _ ⟨options, -, rfl⟩
    rfl
  have hany : ∀ d : EnumType, (d.constants.any fun c => c.number == 0) =
      (d.constants.map EnumConstant.number).any (· == 0) := by
    intro d
    rw [List.any_map]
    rfl
  rw [EnumType.addedConstants, EnumType.addedConstants, hany, hany, hnumbers, hname]

/-- A reordered enum type is lowered to the same declaration. Which error it ends with may differ,
so that only success is compared. -/
theorem EnumType.Reordered.lower_toOption {e e' : EnumType} (h : e.Reordered e') :
    e.lower.toOption = e'.lower.toOption := by
  obtain ⟨constants, options, ranges, names, hc, ho, hr, hn, rfl⟩ := h
  have hadded := EnumType.addedConstants_eq e
    { e with constants, options, reservedRanges := ranges, reservedNames := names } rfl hc
  simp only [EnumType.lower, toOption_bind, Reserved.check_perm hr hn, ho.mergeOptions_eq, hadded,
    map_eq_of_forall₂ hc (fun _ _ => EnumConstant.Reordered.lower_eq)]

theorem EnumType.lowerAll_toOption {es es' : List EnumType}
    (h : List.Forall₂ EnumType.Reordered es es') :
    (EnumType.lowerAll es).toOption = (EnumType.lowerAll es').toOption := by
  induction h with
  | nil => rfl
  | cons he _ ih => simp only [EnumType.lowerAll, toOption_bind, he.lower_toOption, ih]

mutual

/-- **So is a reordered message**, with the messages inside reordered as well. -/
theorem Message.Reordered.lower_toOption : ∀ {m m' : Message}, m.Reordered m' →
    m.lower.toOption = m'.lower.toOption
  | ⟨name, help, enums, messages, oneofs, fields, options, ranges, names⟩, _,
      .intro henums hmessages honeofs hfields hoptions hranges hnames => by
    simp only [Message.lower, toOption_bind, EnumType.lowerAll_toOption henums,
      Message.lowerAll_toOption hmessages, Reserved.check_perm hranges hnames,
      hoptions.mergeOptions_eq, map_eq_of_forall₂ honeofs (fun _ _ => Oneof.Reordered.lower_eq),
      map_eq_of_forall₂ hfields (fun _ _ => Field.Reordered.lower_eq)]

theorem Message.lowerAll_toOption : ∀ {ms ms' : List Message},
    List.Forall₂ Message.Reordered ms ms' →
    (Message.lowerAll ms).toOption = (Message.lowerAll ms').toOption
  | _, _, .nil => rfl
  | _, _, .cons hm hms => by
    simp only [Message.lowerAll, toOption_bind, hm.lower_toOption, Message.lowerAll_toOption hms]

end

/-! ## Imports

The options of a part are read last and the parts inside it in their order, so a reordering
permutes the files that are asked for. -/

section Requests

open Imports

variable (current : String)

/-- Items that ask for the same imports in some order do so together. -/
theorem requests_perm_of_forall₂ {α : Type} {R : α → α → Prop} {xs ys : List α}
    (h : List.Forall₂ R xs ys) {f : α → List Part}
    (hf : ∀ x y, R x y → (requests current (f x)).Perm (requests current (f y))) :
    (requests current (xs.flatMap f)).Perm (requests current (ys.flatMap f)) := by
  induction h with
  | nil => exact List.Perm.refl _
  | cons hxy _ ih =>
    rw [List.flatMap_cons, List.flatMap_cons, requests_append, requests_append]
    exact (hf _ _ hxy).append ih

/-- Settings ask for the imports of their extensions, in whichever order they stand. -/
theorem optionParts_requests_perm {os os' : List OptionSetting} (h : SameGroups os os') :
    (requests current (optionParts everywhere os)).Perm
      (requests current (optionParts everywhere os')) := by
  rw [optionParts, optionParts, requests_flatMap, requests_flatMap]
  exact h.1.flatMap_right _

theorem EnumConstant.Reordered.requests_perm {c c' : EnumConstant} (h : c.Reordered c') :
    (requests current (c.parts everywhere)).Perm (requests current (c'.parts everywhere)) := by
  obtain ⟨options, ho, rfl⟩ := h
  rw [EnumConstant.parts, EnumConstant.parts, requests_followedBy, requests_followedBy]
  exact (optionParts_requests_perm current ho).append_left _

theorem EnumType.Reordered.requests_perm {e e' : EnumType} (h : e.Reordered e') :
    (requests current (e.parts everywhere)).Perm (requests current (e'.parts everywhere)) := by
  obtain ⟨constants, options, ranges, names, hc, ho, -, -, rfl⟩ := h
  have hconstants := requests_perm_of_forall₂ current hc
    fun _ _ => EnumConstant.Reordered.requests_perm current
  rw [EnumType.parts, EnumType.parts, requests_followedBy, requests_followedBy, requests_append,
    requests_append]
  exact (hconstants.append (optionParts_requests_perm current ho)).append_left _

theorem Field.Reordered.requests_perm {f f' : Field} (h : f.Reordered f') :
    (requests current (f.parts everywhere)).Perm (requests current (f'.parts everywhere)) := by
  obtain ⟨options, ho, rfl⟩ := h
  rw [Field.parts, Field.parts, requests_followedBy, requests_followedBy, requests_cons,
    requests_cons]
  exact ((optionParts_requests_perm current ho).append_left _).append_left _

theorem Oneof.Reordered.requests_perm {o o' : Oneof} (h : o.Reordered o') :
    (requests current (o.parts everywhere)).Perm (requests current (o'.parts everywhere)) := by
  obtain ⟨fields, options, hf, ho, rfl⟩ := h
  have hfields := requests_perm_of_forall₂ current hf
    fun _ _ => Field.Reordered.requests_perm current
  rw [Oneof.parts, Oneof.parts, requests_followedBy, requests_followedBy, requests_append,
    requests_append]
  exact (hfields.append (optionParts_requests_perm current ho)).append_left _

theorem Method.Reordered.requests_perm {m m' : Method} (h : m.Reordered m') :
    (requests current (m.parts everywhere)).Perm (requests current (m'.parts everywhere)) := by
  obtain ⟨options, ho, rfl⟩ := h
  rw [Method.parts, Method.parts, requests_followedBy, requests_followedBy, requests_cons,
    requests_cons, requests_cons, requests_cons]
  exact (((optionParts_requests_perm current ho).append_left _).append_left _).append_left _

theorem Service.Reordered.requests_perm {s s' : Service} (h : s.Reordered s') :
    (requests current (s.parts everywhere)).Perm (requests current (s'.parts everywhere)) := by
  obtain ⟨methods, options, hm, ho, rfl⟩ := h
  have hmethods := requests_perm_of_forall₂ current hm
    fun _ _ => Method.Reordered.requests_perm current
  rw [Service.parts, Service.parts, requests_followedBy, requests_followedBy, requests_append,
    requests_append]
  exact (hmethods.append (optionParts_requests_perm current ho)).append_left _

mutual

/-- **A reordered message asks for the same imports**, how often each included. -/
theorem Message.Reordered.requests_perm : ∀ {m m' : Message}, m.Reordered m' →
    (requests current (m.parts everywhere)).Perm (requests current (m'.parts everywhere))
  | ⟨name, help, enums, messages, oneofs, fields, options, ranges, names⟩, _,
      .intro henums hmessages honeofs hfields hoptions _ _ => by
    have he := requests_perm_of_forall₂ current henums
      fun _ _ => EnumType.Reordered.requests_perm current
    have ho := requests_perm_of_forall₂ current honeofs
      fun _ _ => Oneof.Reordered.requests_perm current
    have hf := requests_perm_of_forall₂ current hfields
      fun _ _ => Field.Reordered.requests_perm current
    -- the groups of parts come in the same order in both, and each is permuted by itself
    simp only [Message.parts, requests_followedBy, requests_append]
    exact ((((he.append (Message.listParts_requests_perm hmessages)).append ho).append hf).append
      (optionParts_requests_perm current hoptions)).append_left _

theorem Message.listParts_requests_perm : ∀ {ms ms' : List Message},
    List.Forall₂ Message.Reordered ms ms' →
    (requests current (Message.listParts everywhere ms)).Perm
      (requests current (Message.listParts everywhere ms'))
  | _, _, .nil => List.Perm.refl _
  | _, _, .cons hm hms => by
    rw [Message.listParts, Message.listParts, requests_append, requests_append]
    exact hm.requests_perm.append (Message.listParts_requests_perm hms)

end

/-- **A reordered file has the same imports**: they are kept in order of their names. -/
theorem File.Reordered.imports_eq {f f' : File} (h : f.Reordered f') : f.imports = f'.imports := by
  obtain ⟨enums, messages, services, options, henums, hmessages, hservices, hoptions, rfl⟩ := h
  -- as sets the requests are equal; that they are permutations is what the induction carries
  refine File.imports_eq ?_
  intro name
  apply List.Perm.mem_iff
  have he := requests_perm_of_forall₂ f.name henums
    fun _ _ => EnumType.Reordered.requests_perm f.name
  have hs := requests_perm_of_forall₂ f.name hservices
    fun _ _ => Service.Reordered.requests_perm f.name
  simp only [File.parts, requests_followedBy, requests_append]
  exact ((((he.append (Message.listParts_requests_perm f.name hmessages)).append hs).append
    (List.Perm.refl _)).append (optionParts_requests_perm f.name hoptions)).append_left _

end Requests

/-! ## Compiling -/

/-- A reordered file is lowered to the same declarations with the same imports. -/
theorem File.Reordered.lower_toOption {f f' : File} (h : f.Reordered f') :
    f.lower.toOption = f'.lower.toOption := by
  have himports := h.imports_eq
  obtain ⟨enums, messages, services, options, henums, hmessages, hservices, hoptions, rfl⟩ := h
  simp only [File.lower, toOption_bind, himports, EnumType.lowerAll_toOption henums,
    Message.lowerAll_toOption hmessages, hoptions.mergeOptions_eq,
    map_eq_of_forall₂ hservices (fun _ _ => Service.Reordered.lower_eq)]

/-- **The generated text is canonical.** A document and a reordering of it compile to the same
file, name and contents, or neither of them compiles. -/
theorem File.Reordered.compile_eq_ok_iff {f f' : File} (h : f.Reordered f') (g : GeneratedFile) :
    f.compile = .ok g ↔ f'.compile = .ok g := by
  have hname : f'.name = f.name := by
    obtain ⟨enums, messages, services, options, -, -, -, -, rfl⟩ := h
    rfl
  -- writing takes the lowered file alone, so it is enough that both are lowered to the same one
  rw [File.compile_eq_ok, File.compile_eq_ok, hname]
  have hlower : ∀ file, f.lower = .ok file ↔ f'.lower = .ok file := by
    intro file
    rw [← toOption_eq_some, ← toOption_eq_some, h.lower_toOption]
  simp only [hlower]

/-- A document with options of two names on a field, reserved ranges that touch, and reserved
names. -/
def shelf (options : List OptionSetting) (reservedRanges : List ReservedRange)
    (reservedNames : List String) : File := {
  name := "shelf.proto"
  messages := [{
    name := "Shelf"
    fields := [{ name := "id", number := 1, type := .here "int32", options }]
    reservedRanges
    reservedNames }] }

/-- The settings of the name `b` keep their order, and that of `p.a` moves between them. -/
theorem compile_shelf_eq_ok_iff :
    let b₁ : OptionSetting := { extension := .here "b", path := "x", value := .bool true }
    let a : OptionSetting := { extension := { name := "a", package := "p" }, value := .bool true }
    let b₂ : OptionSetting := { extension := .here "b", path := "y", value := .bool false }
    let f := shelf [a, b₁, b₂] [⟨10, none⟩, ⟨5, some 9⟩] ["old", "gone"]
    let f' := shelf [b₁, a, b₂] [⟨5, some 9⟩, ⟨10, none⟩] ["gone", "old"]
    f.Reordered f' ∧ (∃ file, f.lower = .ok file) ∧ ∀ g, f.compile = .ok g ↔ f'.compile = .ok g := by
  intro b₁ a b₂ f f'
  have hoptions : SameGroups [a, b₁, b₂] [b₁, a, b₂] := by
    refine ⟨List.Perm.swap _ _ _, ?_⟩
    intro name
    have ha : a.extension.fullName = "p.a" := rfl
    by_cases h : "p.a" = name
    · subst h
      rfl
    · simp [OptionMerge.group, List.filter_cons, ha, h]
  have hfield : List.Forall₂ Field.Reordered
      [{ name := "id", number := 1, type := .here "int32", options := [a, b₁, b₂] }]
      [{ name := "id", number := 1, type := .here "int32", options := [b₁, a, b₂] }] :=
    .cons ⟨_, hoptions, rfl⟩ .nil
  have hmessage : List.Forall₂ Message.Reordered f.messages f'.messages :=
    .cons (.intro .nil .nil .nil hfield (.refl _) (.swap _ _ _) (.swap _ _ _)) .nil
  have hf : f.Reordered f' := ⟨_, _, _, _, .nil, hmessage, .nil, .refl _, rfl⟩
  -- the ranges touch but do not overlap, so the document is lowered
  have haccepted : ¬ Reservation.Refused
      ⟨maxFieldNumber, "Shelf", [⟨10, none⟩, ⟨5, some 9⟩], ["old", "gone"]⟩ := by
    refine Reservation.not_refused_iff.mpr ⟨?_, ?_, by simp⟩
    · simp [ReservedRange.WithinBounds, maxFieldNumber]
    · rw [Reserved.NoOverlap, List.pairwise_pair]
      intro n hopen hclosed
      have hstart : 10 ≤ n := hopen.1
      have hstop : n ≤ 9 := hclosed.2
      omega
  have hlower : fault? f.lower = none := by
    rw [File.fault?_lower]
    show List.findSome? _ [_] = none
    rw [List.findSome?_singleton]
    exact Reservation.fault?_eq_none.mpr haccepted
  exact ⟨hf, fault?_eq_none.mp hlower, File.Reordered.compile_eq_ok_iff hf⟩

end Schema

end ProtoSchema
