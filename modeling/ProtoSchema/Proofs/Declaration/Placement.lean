/-
Every declaration in its place.

What a part of a document becomes is described here without lowering: a constant, a field, a
method become one declaration each, which keeps their names, numbers and types, and whatever
contains other parts becomes a block with the declarations of these parts, group by group and in
the order of the document (`Becomes`). An enum may get one more constant, in front of its own, and
gets it exactly if none of its own has the number zero. Lowering yields declarations of this form.

Two things follow for the whole tree, at any depth. The declarations of a file, listed with their
kinds, names and doc comments, are those that the traversal of the document lists, each as often
as there, so that none is lost and none is there twice. And every enum has a constant for zero.
-/
import Mathlib.Data.List.Forall2
import ProtoSchema.Declaration.Lowering
import ProtoSchema.Proofs.Declaration.Written

set_option autoImplicit false

namespace ProtoSchema

open Declaration (preorderAll)

/-- **A heading has a name and a doc comment**, whatever its options are. -/
structure Heading.Reads (head : Heading) (name help : String) : Prop where
  name : head.name = name
  help : head.help = help

namespace Schema

open Outcome

/-! ## What parts become -/

def EnumConstant.Becomes (c : EnumConstant) (d : Declaration) : Prop :=
  ∃ head : Heading, head.Reads c.name c.help ∧ d = .enumConstant head c.number

/-- **The constants that are added to an enum**: one for zero, exactly if it has none. -/
inductive EnumType.Adds (e : EnumType) : List Declaration → Prop where
  | nothing {c : EnumConstant} (hmem : c ∈ e.constants) (hzero : c.number = 0) : e.Adds []
  | zero {head : Heading} (hnone : ∀ c ∈ e.constants, c.number ≠ 0)
      (hhead : head.Reads (ConstantName.zero e.name) "") : e.Adds [.enumConstant head 0]

def EnumType.Becomes (e : EnumType) (d : Declaration) : Prop :=
  ∃ (head : Heading) (added own : List Declaration) (reserved : Reserved),
    head.Reads e.name e.help ∧ e.Adds added ∧
    List.Forall₂ EnumConstant.Becomes e.constants own ∧ d = .enum head (added ++ own) reserved

def Field.Becomes (f : Field) (d : Declaration) : Prop :=
  ∃ head : Heading, head.Reads f.name f.help ∧ d = .field head f.number f.type.fullName f.label

def Oneof.Becomes (o : Oneof) (d : Declaration) : Prop :=
  ∃ (head : Heading) (fields : List Declaration), head.Reads o.name o.help ∧
    List.Forall₂ Field.Becomes o.fields fields ∧ d = .oneof head fields

/-- Messages and the messages in them, at any depth. -/
inductive Message.Becomes : Message → Declaration → Prop where
  | intro {m : Message} {head : Heading} {enums messages oneofs fields : List Declaration}
    {reserved : Reserved} (hhead : head.Reads m.name m.help)
    (henums : List.Forall₂ EnumType.Becomes m.enums enums)
    (hmessages : List.Forall₂ Message.Becomes m.messages messages)
    (honeofs : List.Forall₂ Oneof.Becomes m.oneofs oneofs)
    (hfields : List.Forall₂ Field.Becomes m.fields fields) :
    Message.Becomes m (.message head (enums ++ messages ++ oneofs ++ fields) reserved)

def Method.Becomes (m : Method) (d : Declaration) : Prop :=
  ∃ head : Heading, head.Reads m.name m.help ∧
    d = .method head ⟨m.input.fullName, m.output.fullName, m.clientStreaming, m.serverStreaming⟩

def Service.Becomes (s : Service) (d : Declaration) : Prop :=
  ∃ (head : Heading) (methods : List Declaration), head.Reads s.name s.help ∧
    List.Forall₂ Method.Becomes s.methods methods ∧ d = .service head methods

/-- A custom option becomes a block for what it extends, with its field alone. -/
def CustomOption.Becomes (c : CustomOption) (d : Declaration) : Prop :=
  ∃ block head : Heading, block.Reads c.target.extendee "" ∧ head.Reads c.name c.help ∧
    d = .extension block [.field head c.number c.type.fullName c.label]

/-- **What a document becomes**: the declarations of its custom options, enums, messages and
services. -/
def File.Becomes (f : File) (ds : List Declaration) : Prop :=
  ∃ customOptions enums messages services : List Declaration,
    List.Forall₂ CustomOption.Becomes f.customOptions customOptions ∧
    List.Forall₂ EnumType.Becomes f.enums enums ∧
    List.Forall₂ Message.Becomes f.messages messages ∧
    List.Forall₂ Service.Becomes f.services services ∧
    ds = customOptions ++ enums ++ messages ++ services

/-! ## Lowering -/

/-- A list lowered item by item. -/
theorem forall₂_map_of_forall {α : Type} {R : α → Declaration → Prop} {lower : α → Declaration}
    (h : ∀ x, R x (lower x)) (xs : List α) : List.Forall₂ R xs (xs.map lower) :=
  List.forall₂_map_right_iff.mpr (List.forall₂_same.mpr fun x _ => h x)

theorem EnumConstant.becomes_lower (c : EnumConstant) : c.Becomes c.lower :=
  ⟨_, ⟨rfl, rfl⟩, rfl⟩

theorem Field.becomes_lower (f : Field) : f.Becomes f.lower := ⟨_, ⟨rfl, rfl⟩, rfl⟩

theorem Oneof.becomes_lower (o : Oneof) : o.Becomes o.lower :=
  ⟨_, _, ⟨rfl, rfl⟩, forall₂_map_of_forall Field.becomes_lower o.fields, rfl⟩

theorem Method.becomes_lower (m : Method) : m.Becomes m.lower := ⟨_, ⟨rfl, rfl⟩, rfl⟩

theorem Service.becomes_lower (s : Service) : s.Becomes s.lower :=
  ⟨_, _, ⟨rfl, rfl⟩, forall₂_map_of_forall Method.becomes_lower s.methods, rfl⟩

theorem CustomOption.becomes_lower (c : CustomOption) : c.Becomes c.lower :=
  ⟨_, _, ⟨rfl, rfl⟩, ⟨rfl, rfl⟩, rfl⟩

/-- The constants that lowering adds are none, or a zero constant before all others. -/
theorem EnumType.adds_addedConstants (e : EnumType) : e.Adds e.addedConstants := by
  rw [EnumType.addedConstants]
  split
  · rename_i hany
    obtain ⟨c, hc, hzero⟩ := List.any_eq_true.mp hany
    exact .nothing hc (by simpa using hzero)
  · rename_i hany
    refine .zero ?_ ⟨rfl, rfl⟩
    intro c hc hzero
    exact hany (List.any_eq_true.mpr ⟨c, hc, by simpa using hzero⟩)

/-- A lowered enum type keeps its name, its help text and its constants, behind those that were
added. -/
theorem EnumType.becomes_of_lower {e : EnumType} {d : Declaration} (h : e.lower = .ok d) :
    e.Becomes d := by
  obtain ⟨reserved, -, h⟩ := bind_eq_ok.mp h
  obtain rfl := pure_eq_ok.mp h
  exact ⟨_, _, _, reserved, ⟨rfl, rfl⟩, e.adds_addedConstants,
    forall₂_map_of_forall EnumConstant.becomes_lower e.constants, rfl⟩

/-- Enum types stay in their order. -/
theorem EnumType.becomes_of_lowerAll {es : List EnumType} {ds : List Declaration}
    (h : EnumType.lowerAll es = .ok ds) : List.Forall₂ EnumType.Becomes es ds := by
  induction es generalizing ds with
  | nil =>
    cases h
    exact .nil
  | cons e es ih =>
    obtain ⟨d, hd, h⟩ := bind_eq_ok.mp h
    obtain ⟨ds', hds, h⟩ := bind_eq_ok.mp h
    obtain rfl := pure_eq_ok.mp h
    exact .cons (EnumType.becomes_of_lower hd) (ih hds)

mutual

/-- **A lowered message has its declarations in order**: enums, messages, oneofs and fields, each
with what it becomes. The induction goes with the lowering through the messages inside. -/
theorem Message.becomes_of_lower : ∀ {m : Message} {d : Declaration}, m.lower = .ok d →
    m.Becomes d
  | ⟨name, help, enums, messages, oneofs, fields, options, ranges, names⟩, d, h => by
    rw [Message.lower] at h
    obtain ⟨es, hes, h⟩ := bind_eq_ok.mp h
    obtain ⟨ms, hms, h⟩ := bind_eq_ok.mp h
    obtain ⟨reserved, -, h⟩ := bind_eq_ok.mp h
    obtain rfl := pure_eq_ok.mp h
    exact .intro ⟨rfl, rfl⟩ (EnumType.becomes_of_lowerAll hes) (Message.becomes_of_lowerAll hms)
      (forall₂_map_of_forall Oneof.becomes_lower oneofs)
      (forall₂_map_of_forall Field.becomes_lower fields)

/-- Messages stay in their order. -/
theorem Message.becomes_of_lowerAll : ∀ {ms : List Message} {ds : List Declaration},
    Message.lowerAll ms = .ok ds → List.Forall₂ Message.Becomes ms ds
  | [], ds, h => by
    cases h
    exact .nil
  | m :: ms, ds, h => by
    rw [Message.lowerAll] at h
    obtain ⟨d, hd, h⟩ := bind_eq_ok.mp h
    obtain ⟨ds', hds, h⟩ := bind_eq_ok.mp h
    obtain rfl := pure_eq_ok.mp h
    exact .cons (Message.becomes_of_lower hd) (Message.becomes_of_lowerAll hds)

end

/-- **The declarations of a lowered file**: custom options first, then enums, messages and services,
each in their order. -/
theorem File.becomes_of_lower {f : File} {file : ProtoFile} (h : f.lower = .ok file) :
    f.Becomes file.declarations := by
  obtain ⟨es, hes, h⟩ := bind_eq_ok.mp h
  obtain ⟨ms, hms, h⟩ := bind_eq_ok.mp h
  obtain rfl := pure_eq_ok.mp h
  exact ⟨_, es, ms, _, forall₂_map_of_forall CustomOption.becomes_lower f.customOptions,
    EnumType.becomes_of_lowerAll hes, Message.becomes_of_lowerAll hms,
    forall₂_map_of_forall Service.becomes_lower f.services, rfl⟩

/-! ## The declarations of the whole tree -/

/-- **How a declaration is listed**: its kind, its name and its doc comment. -/
structure Label where
  kind : PartKind
  name : String
  help : String
deriving DecidableEq, Repr

/-- The label of a declaration. The block of a custom option counts as the option. -/
def Label.ofDeclaration (d : Declaration) : Label :=
  let kind : PartKind := match d with
    | .message _ _ _ => .message
    | .enum _ _ _ => .enum
    | .extension _ _ => .customOption
    | .oneof _ _ => .oneof
    | .service _ _ => .service
    | .field _ _ _ _ => .field
    | .enumConstant _ _ => .enumConstant
    | .method _ _ => .method
  { kind, name := d.head.name, help := d.head.help }

/-- The label of the constant that an enum lacks, if it does. -/
def EnumType.addedLabels (e : EnumType) : List Label :=
  if e.constants.any fun c => c.number == 0 then []
  else [⟨.enumConstant, ConstantName.zero e.name, ""⟩]

/-- **The labels that a part asks for** by itself. -/
def Part.labels : Part → List Label
  | .message m => [⟨.message, m.name, m.help⟩]
  | .enum e => ⟨.enum, e.name, e.help⟩ :: e.addedLabels
  | .enumConstant c => [⟨.enumConstant, c.name, c.help⟩]
  | .field f => [⟨.field, f.name, f.help⟩]
  | .oneof o => [⟨.oneof, o.name, o.help⟩]
  | .service s => [⟨.service, s.name, s.help⟩]
  | .method m => [⟨.method, m.name, m.help⟩]
  | .customOption c => [⟨.customOption, c.target.extendee, ""⟩, ⟨.field, c.name, c.help⟩]
  | .file _ | .option _ | .typeRef _ => []

/-- The labels that parts ask for, in reading order. -/
def labelsOf (parts : List Part) : List Label := parts.flatMap Part.labels

theorem labelsOf_append (ps qs : List Part) : labelsOf (ps ++ qs) = labelsOf ps ++ labelsOf qs :=
  List.flatMap_append

/-- A part is listed before what is inside it. -/
theorem labelsOf_followedBy (p : Part) (inside : List Part) :
    labelsOf (p.followedBy everywhere inside) = p.labels ++ labelsOf inside := rfl

/-- Options are no declarations. -/
theorem labelsOf_optionParts (os : List OptionSetting) :
    labelsOf (optionParts everywhere os) = [] := by
  rw [labelsOf, optionParts, List.flatMap_assoc, List.flatMap_eq_nil_iff]
  intro o _
  rfl

/-- An enum has a constant for zero; other declarations need none. -/
def HasZero : Declaration → Prop
  | .enum _ children _ => ∃ head : Heading, .enumConstant head 0 ∈ children
  | _ => True

/-- **Declarations are listed as parts ask for**, those in their blocks included, and every enum
among them has a constant for zero. -/
structure ListedAs (ds : List Declaration) (parts : List Part) : Prop where
  labels : (preorderAll ds).map Label.ofDeclaration = labelsOf parts
  hasZero : ∀ d ∈ preorderAll ds, HasZero d

namespace ListedAs

variable {ds es : List Declaration} {ps qs : List Part}

theorem nil : ListedAs [] [] := ⟨rfl, List.forall_mem_nil _⟩

/-- Two listings one after the other. -/
theorem append (h : ListedAs ds ps) (h' : ListedAs es qs) : ListedAs (ds ++ es) (ps ++ qs) := by
  constructor
  · rw [Declaration.preorderAll_append, List.map_append, h.labels, h'.labels, labelsOf_append]
  · rw [Declaration.preorderAll_append]
    exact List.forall_mem_append.mpr ⟨h.hasZero, h'.hasZero⟩

/-- Parts without labels do not matter. -/
theorem append_of_labelsOf_eq_nil (h : ListedAs ds ps) (hqs : labelsOf qs = []) :
    ListedAs ds (ps ++ qs) := by
  refine ⟨?_, h.hasZero⟩
  rw [h.labels, labelsOf_append, hqs, List.append_nil]

/-- Settings have no labels, so that they may stand anywhere in the schema. -/
theorem withOptions (h : ListedAs ds ps) (os : List OptionSetting) :
    ListedAs ds (ps ++ optionParts everywhere os) :=
  h.append_of_labelsOf_eq_nil (labelsOf_optionParts os)

/-- Declarations that correspond to things one by one are listed as those are. -/
theorem of_forall₂ {α : Type} {R : α → Declaration → Prop} {xs : List α}
    (h : List.Forall₂ R xs ds) {parts : α → List Part}
    (hone : ∀ x d, R x d → ListedAs [d] (parts x)) : ListedAs ds (xs.flatMap parts) := by
  induction h with
  | nil => exact .nil
  | cons hxd _ ih => exact (hone _ _ hxd).append ih

/-- **A declaration is listed before those in its block.** -/
theorem singleton {d : Declaration} {p : Part} {l : Label} (hp : p.labels = [l])
    (hd : Label.ofDeclaration d = l) (hzero : HasZero d) (h : ListedAs d.children ps) :
    ListedAs [d] (p.followedBy everywhere ps) := by
  constructor
  · rw [Declaration.preorderAll_singleton, List.map_cons, h.labels, labelsOf_followedBy, hp, hd]
    rfl
  · rw [Declaration.preorderAll_singleton]
    exact List.forall_mem_cons.mpr ⟨hzero, h.hasZero⟩

/-- Parts without labels correspond to no declaration. -/
theorem of_labelsOf_eq_nil (hps : labelsOf ps = []) : ListedAs [] ps :=
  ⟨hps.symm, List.forall_mem_nil _⟩

end ListedAs

/-! For each kind: the label that the part asks for is that of its declaration, and what is inside
the one is listed as the inside of the other asks for. -/

/-- A heading that reads like a part has the part's label. -/
theorem Label.eq_of_reads {head : Heading} {name help : String} (h : head.Reads name help)
    (kind : PartKind) : Label.mk kind head.name head.help = ⟨kind, name, help⟩ := by
  rw [h.name, h.help]

theorem EnumConstant.Becomes.listedAs {c : EnumConstant} {d : Declaration} (h : c.Becomes d) :
    ListedAs [d] (c.parts everywhere) := by
  obtain ⟨head, hhead, rfl⟩ := h
  exact .singleton rfl (Label.eq_of_reads hhead _) trivial
    (.of_labelsOf_eq_nil (labelsOf_optionParts c.options))

theorem Field.Becomes.listedAs {f : Field} {d : Declaration} (h : f.Becomes d) :
    ListedAs [d] (f.parts everywhere) := by
  obtain ⟨head, hhead, rfl⟩ := h
  exact .singleton rfl (Label.eq_of_reads hhead _) trivial
    (.of_labelsOf_eq_nil (labelsOf_optionParts f.options))

theorem Oneof.Becomes.listedAs {o : Oneof} {d : Declaration} (h : o.Becomes d) :
    ListedAs [d] (o.parts everywhere) := by
  obtain ⟨head, fields, hhead, hfields, rfl⟩ := h
  have hinside := ListedAs.of_forall₂ hfields fun _ _ => Field.Becomes.listedAs
  exact .singleton rfl (Label.eq_of_reads hhead _) trivial (hinside.withOptions o.options)

theorem Method.Becomes.listedAs {m : Method} {d : Declaration} (h : m.Becomes d) :
    ListedAs [d] (m.parts everywhere) := by
  obtain ⟨head, hhead, rfl⟩ := h
  exact .singleton rfl (Label.eq_of_reads hhead _) trivial
    (.of_labelsOf_eq_nil (labelsOf_optionParts m.options))

theorem Service.Becomes.listedAs {s : Service} {d : Declaration} (h : s.Becomes d) :
    ListedAs [d] (s.parts everywhere) := by
  obtain ⟨head, methods, hhead, hmethods, rfl⟩ := h
  have hinside := ListedAs.of_forall₂ hmethods fun _ _ => Method.Becomes.listedAs
  exact .singleton rfl (Label.eq_of_reads hhead _) trivial (hinside.withOptions s.options)

/-- The block of a custom option and the field in it come from one part. -/
theorem CustomOption.Becomes.listedAs {c : CustomOption} {d : Declaration} (h : c.Becomes d) :
    ListedAs [d] (c.parts everywhere) := by
  obtain ⟨block, head, hblock, hhead, rfl⟩ := h
  constructor
  · rw [Declaration.preorderAll_singleton, Declaration.children, Declaration.preorderAll_singleton]
    exact congrArg₂ (fun b f => [b, f]) (Label.eq_of_reads hblock .customOption)
      (Label.eq_of_reads hhead .field)
  · rw [Declaration.preorderAll_singleton, Declaration.children, Declaration.preorderAll_singleton]
    exact List.forall_mem_cons.mpr
      ⟨trivial, List.forall_mem_cons.mpr ⟨trivial, List.forall_mem_nil _⟩⟩

/-- What is added to an enum is what its part asks for. -/
theorem EnumType.Adds.labels {e : EnumType} {added : List Declaration} (h : e.Adds added) :
    (preorderAll added).map Label.ofDeclaration = e.addedLabels := by
  cases h with
  | nothing hmem hzero =>
    have hany : (e.constants.any fun c => c.number == 0) = true :=
      List.any_eq_true.mpr ⟨_, hmem, by simpa using hzero⟩
    rw [EnumType.addedLabels, if_pos hany]
    rfl
  | zero hnone hhead =>
    have hany : ¬ (e.constants.any fun c => c.number == 0) = true := by
      simpa using hnone
    rw [EnumType.addedLabels, if_neg hany]
    exact congrArg (fun l => [l]) (Label.eq_of_reads hhead .enumConstant)

/-- Added constants hold no enum types that could lack a zero constant. -/
theorem EnumType.Adds.hasZero {e : EnumType} {added : List Declaration} (h : e.Adds added) :
    ∀ d ∈ preorderAll added, HasZero d := by
  cases h with
  | nothing => exact List.forall_mem_nil _
  | zero =>
    rw [Declaration.preorderAll_singleton]
    exact List.forall_mem_cons.mpr ⟨trivial, List.forall_mem_nil _⟩

/-- Each thing of a list that becomes declarations becomes one of them. -/
theorem exists_becomes_of_mem {α : Type} {R : α → Declaration → Prop} {xs : List α}
    {ds : List Declaration} (h : List.Forall₂ R xs ds) {x : α} (hx : x ∈ xs) :
    ∃ d ∈ ds, R x d := by
  induction h with
  | nil => cases hx
  | cons hxd _ ih =>
    rcases List.mem_cons.mp hx with rfl | hmem
    · exact ⟨_, List.mem_cons_self, hxd⟩
    · obtain ⟨d, hd, hxd⟩ := ih hmem
      exact ⟨d, List.mem_cons_of_mem _ hd, hxd⟩

/-- With what is added, an enum has a constant for zero. -/
theorem EnumType.Adds.exists_zero {e : EnumType} {added own : List Declaration} (h : e.Adds added)
    (hown : List.Forall₂ EnumConstant.Becomes e.constants own) :
    ∃ head : Heading, .enumConstant head 0 ∈ added ++ own := by
  cases h with
  | nothing hmem hzero =>
    obtain ⟨d, hd, head, -, rfl⟩ := exists_becomes_of_mem hown hmem
    exact ⟨head, hzero ▸ hd⟩
  | zero => exact ⟨_, List.mem_cons_self⟩

/-- **An enum type and its constants are listed in their places.** An added constant is no part of
the schema, and is set apart. -/
theorem EnumType.Becomes.listedAs {e : EnumType} {d : Declaration} (h : e.Becomes d) :
    ListedAs [d] (e.parts everywhere) := by
  obtain ⟨head, added, own, reserved, hhead, hadded, hown, rfl⟩ := h
  have hconstants := ListedAs.of_forall₂ hown fun _ _ => EnumConstant.Becomes.listedAs
  have hinside := hconstants.withOptions e.options
  constructor
  · rw [Declaration.preorderAll_singleton, Declaration.children, Declaration.preorderAll_append,
      List.map_cons, List.map_append, hadded.labels, hinside.labels, EnumType.parts,
      labelsOf_followedBy]
    exact congrArg (· :: _) (Label.eq_of_reads hhead .enum)
  · rw [Declaration.preorderAll_singleton, Declaration.children, Declaration.preorderAll_append]
    exact List.forall_mem_cons.mpr ⟨hadded.exists_zero hown,
      List.forall_mem_append.mpr ⟨hadded.hasZero, hinside.hasZero⟩⟩

mutual

/-- **A message is listed with all that is inside it**, to any depth. The induction is on the
message. -/
theorem Message.Becomes.listedAs : ∀ {m : Message} {d : Declaration}, m.Becomes d →
    ListedAs [d] (m.parts everywhere)
  | ⟨name, help, enums, messages, oneofs, fields, options, ranges, names⟩, _,
      .intro hhead henums hmessages honeofs hfields => by
    have hes := ListedAs.of_forall₂ henums fun _ _ => EnumType.Becomes.listedAs
    have hms := Message.listedAs_of_forall₂ hmessages
    have hos := ListedAs.of_forall₂ honeofs fun _ _ => Oneof.Becomes.listedAs
    have hfs := ListedAs.of_forall₂ hfields fun _ _ => Field.Becomes.listedAs
    have hinside := (((hes.append hms).append hos).append hfs).withOptions options
    rw [Message.parts]
    exact .singleton rfl (Label.eq_of_reads hhead _) trivial hinside

/-- The messages of a list are listed one after the other. -/
theorem Message.listedAs_of_forall₂ : ∀ {ms : List Message} {ds : List Declaration},
    List.Forall₂ Message.Becomes ms ds → ListedAs ds (Message.listParts everywhere ms)
  | _, _, .nil => .nil
  | _, _, .cons hm hms => hm.listedAs.append (Message.listedAs_of_forall₂ hms)

end

/-- **The declarations of a file are those that its parts ask for**, each as often as they do. The
traversal reads custom options last, where lowering puts them first. -/
theorem File.Becomes.perm_labels {f : File} {ds : List Declaration} (h : f.Becomes ds) :
    ((preorderAll ds).map Label.ofDeclaration).Perm (labelsOf (f.parts everywhere)) ∧
      ∀ d ∈ preorderAll ds, HasZero d := by
  obtain ⟨customOptions, enums, messages, services, hcs, hes, hms, hss, rfl⟩ := h
  have hcs := ListedAs.of_forall₂ hcs fun _ _ => CustomOption.Becomes.listedAs
  have hes := ListedAs.of_forall₂ hes fun _ _ => EnumType.Becomes.listedAs
  have hms := Message.listedAs_of_forall₂ hms
  have hss := ListedAs.of_forall₂ hss fun _ _ => Service.Becomes.listedAs
  have hall := ((hcs.append hes).append hms).append hss
  refine ⟨?_, hall.hasZero⟩
  rw [hall.labels, File.parts, labelsOf_followedBy]
  simp only [labelsOf_append, labelsOf_optionParts, Part.labels, List.nil_append, List.append_nil,
    List.append_assoc]
  let optionLabels := labelsOf (f.customOptions.flatMap (CustomOption.parts everywhere))
  let otherLabels := labelsOf (f.enums.flatMap (EnumType.parts everywhere)) ++
    (labelsOf (Message.listParts everywhere f.messages) ++
      labelsOf (f.services.flatMap (Service.parts everywhere)))
  -- the file lists custom options last and their declarations come first; nothing else is moved
  have hcustom : (optionLabels ++ otherLabels).Perm (otherLabels ++ optionLabels) :=
    List.perm_append_comm
  simpa only [otherLabels, List.append_assoc] using hcustom

/-- **Lowering keeps every declaration in its place.** The declarations of a lowered file are
those of the custom options, enums, messages and services of the document, in this order, and so
on inside each of them: every part becomes one declaration in the same place, with its name, doc
comment, number, label, types and streaming, and an enum without a constant for zero gets one in
front of its own. So the tree has exactly the declarations that the document asks for, and every
enum in it, at any depth, has a constant for zero. -/
theorem File.lower_keeps_places {f : File} {file : ProtoFile} (h : f.lower = .ok file) :
    f.Becomes file.declarations ∧
    ((preorderAll file.declarations).map Label.ofDeclaration).Perm
      (labelsOf (f.parts everywhere)) ∧
    ∀ d ∈ preorderAll file.declarations, ∀ head children reserved,
      d = .enum head children reserved → ∃ zero : Heading, .enumConstant zero 0 ∈ children := by
  have hbecomes := File.becomes_of_lower h
  obtain ⟨hperm, hzero⟩ := hbecomes.perm_labels
  refine ⟨hbecomes, hperm, ?_⟩
  rintro d hd head children reserved rfl
  exact hzero _ hd

/-- A document with a custom option, a service with a streaming method, and a message with a
oneof and a nested message, in which an enum has no constant for zero. -/
def catalogFile : File :=
  let mood : EnumType := { name := "Mood", constants := [{ name := "GOOD", number := 2 }] }
  { customOptions := [{ name := "shelf", number := 50000, type := .here "string", target := .field }]
    enums := [{ name := "Color", constants := [{ name := "RED", number := 1 }, { name := "NONE" }] }]
    messages := [{
      name := "Book"
      messages := [{ name := "Page", enums := [mood] }]
      oneofs := [{ name := "owner", fields := [{ name := "author", type := .here "string" }] }]
      fields := [{ name := "title", number := 1, label := "repeated", type := .here "string" }] }]
    services := [{ name := "Shop", methods := [{ name := "Buy", clientStreaming := true }] }] }

/-- It is lowered to four declarations, one for each part at its top, and the nested enum has got
its constant. -/
theorem lower_keeps_places_catalogFile :
    ∃ file, catalogFile.lower = .ok file ∧ catalogFile.Becomes file.declarations ∧
      file.declarations.length = 4 ∧
      (∃ d ∈ preorderAll file.declarations,
        Label.ofDeclaration d = ⟨.enumConstant, ConstantName.zero "Mood", ""⟩) ∧
      ∀ d ∈ preorderAll file.declarations, ∀ head children reserved,
        d = .enum head children reserved →
          ∃ zero : Heading, .enumConstant zero 0 ∈ children := by
  have hlower : ∃ file, catalogFile.lower = .ok file ∧ file.declarations.length = 4 :=
    ⟨_, by with_unfolding_all rfl, rfl⟩
  obtain ⟨file, hlower, hlength⟩ := hlower
  obtain ⟨hbecomes, hperm, hzero⟩ := File.lower_keeps_places hlower
  refine ⟨file, hlower, hbecomes, hlength, ?_, hzero⟩
  have hmood : ⟨.enumConstant, ConstantName.zero "Mood", ""⟩ ∈
      labelsOf (catalogFile.parts everywhere) := by
    decide
  exact List.mem_map.mp (hperm.mem_iff.mpr hmood)

end Schema

end ProtoSchema
