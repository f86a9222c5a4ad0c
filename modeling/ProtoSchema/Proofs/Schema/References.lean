/-
What a file refers to, and what it imports.

The declarations of a file and the options that it sets are described here without a traversal:
a message is nested in another one at some depth (`Within`), every other declaration stands in a
message, an enum, a oneof, a service or the file itself, and a reference is the type of a field,
of a method, of a custom option or of an option that is set (`RefersTo`). The traversal lists
exactly these references (`typeRef_mem_parts`), so the imports, which are collected on the way,
are the files of all references to other files.

A file is among its own imports in one case only: if it is the descriptor file and declares a
custom option (`imports_itself_iff`).
-/
import ProtoSchema.Declaration.Lowering
import ProtoSchema.Proofs.Imports
import ProtoSchema.Proofs.Outcome
import ProtoSchema.Proofs.Text.Utf8

set_option autoImplicit false

namespace ProtoSchema

namespace Schema

/-! ## The declarations of a file -/

/-- **A message inside another one**, at any depth, or that message itself. -/
inductive Message.Within : Message → Message → Prop where
  | self (m : Message) : Message.Within m m
  | nested {m inner outer : Message} (h : Message.Within m inner) (hmem : inner ∈ outer.messages) :
      Message.Within m outer

namespace File

/-- The file declares the message, at any depth. -/
def HasMessage (f : File) (m : Message) : Prop := ∃ top ∈ f.messages, m.Within top

/-- The file declares the enum, by itself or in a message. -/
def HasEnum (f : File) (e : EnumType) : Prop := e ∈ f.enums ∨ ∃ m, f.HasMessage m ∧ e ∈ m.enums

/-- The file declares the constant, in some enum. -/
def HasConstant (f : File) (c : EnumConstant) : Prop := ∃ e, f.HasEnum e ∧ c ∈ e.constants

/-- The file declares the oneof, in some message. -/
def HasOneof (f : File) (o : Oneof) : Prop := ∃ m, f.HasMessage m ∧ o ∈ m.oneofs

/-- The file declares the field, in some message or oneof. -/
def HasField (f : File) (x : Field) : Prop :=
  (∃ m, f.HasMessage m ∧ x ∈ m.fields) ∨ ∃ o, f.HasOneof o ∧ x ∈ o.fields

/-- The file declares the method, in some service. -/
def HasMethod (f : File) (m : Method) : Prop := ∃ s ∈ f.services, m ∈ s.methods

/-- **The file sets the option**, for itself or on one of its declarations. -/
inductive Sets (f : File) (o : OptionSetting) : Prop where
  | file (h : o ∈ f.options)
  | message {m : Message} (hm : f.HasMessage m) (h : o ∈ m.options)
  | enum {e : EnumType} (he : f.HasEnum e) (h : o ∈ e.options)
  | enumConstant {c : EnumConstant} (hc : f.HasConstant c) (h : o ∈ c.options)
  | field {x : Field} (hx : f.HasField x) (h : o ∈ x.options)
  | oneof {x : Oneof} (hx : f.HasOneof x) (h : o ∈ x.options)
  | service {s : Service} (hs : s ∈ f.services) (h : o ∈ s.options)
  | method {m : Method} (hm : f.HasMethod m) (h : o ∈ m.options)

/-- **The file refers to the type**: as the type of a field, of what a method takes or gives, of
a custom option it declares, or as an option that it sets. -/
inductive RefersTo (f : File) : TypeRef → Prop where
  | fieldType {x : Field} (hx : f.HasField x) : f.RefersTo x.type
  | input {m : Method} (hm : f.HasMethod m) : f.RefersTo m.input
  | output {m : Method} (hm : f.HasMethod m) : f.RefersTo m.output
  | customOption {c : CustomOption} (hc : c ∈ f.customOptions) : f.RefersTo c.type
  | option {o : OptionSetting} (ho : f.Sets o) : f.RefersTo o.extension

end File

/-! ## What a traversal lists -/

theorem mem_followedBy {p q : Part} {inside : List Part} :
    p ∈ q.followedBy everywhere inside ↔ p = q ∨ p ∈ inside := List.mem_cons

/-- A setting is visited as itself and as a reference to its extension. -/
theorem mem_optionParts {p : Part} {os : List OptionSetting} :
    p ∈ optionParts everywhere os ↔ ∃ o ∈ os, p = .option o ∨ p = .typeRef o.extension := by
  simp only [optionParts, List.mem_flatMap, OptionSetting.parts, mem_followedBy, List.mem_singleton]

/-- The parts of a message apart from those of the messages inside it. -/
def Message.ownParts (m : Message) : List Part :=
  .message m :: (m.enums.flatMap (EnumType.parts everywhere) ++
    m.oneofs.flatMap (Oneof.parts everywhere) ++ m.fields.flatMap (Field.parts everywhere) ++
    optionParts everywhere m.options)

/-- A message lists its own parts and those of the messages in it. -/
theorem Message.mem_parts_iff (m : Message) (p : Part) :
    p ∈ m.parts everywhere ↔ p ∈ m.ownParts ∨ p ∈ Message.listParts everywhere m.messages := by
  obtain ⟨name, help, enums, messages, oneofs, fields, options, ranges, names⟩ := m
  rw [Message.parts, mem_followedBy, Message.ownParts]
  simp only [List.mem_cons, List.mem_append]
  tauto

mutual

/-- **The parts of a message** are the own parts of the messages inside it. -/
theorem Message.mem_parts : ∀ (m : Message) (p : Part),
    p ∈ m.parts everywhere ↔ ∃ n : Message, n.Within m ∧ p ∈ n.ownParts
  | ⟨name, help, enums, messages, oneofs, fields, options, ranges, names⟩, p => by
    rw [Message.mem_parts_iff, Message.mem_listParts messages p]
    constructor
    · rintro (hp | ⟨inner, hmem, n, hn, hp⟩)
      · exact ⟨_, .self _, hp⟩
      · exact ⟨n, .nested hn hmem, hp⟩
    · rintro ⟨n, _ | ⟨hn, hmem⟩, hp⟩
      · exact .inl hp
      · exact .inr ⟨_, hmem, n, hn, hp⟩

/-- The parts of messages are those that belong to a message at any depth in one of them. -/
theorem Message.mem_listParts : ∀ (ms : List Message) (p : Part),
    p ∈ Message.listParts everywhere ms ↔ ∃ m ∈ ms, ∃ n : Message, n.Within m ∧ p ∈ n.ownParts
  | [], p => by simp [Message.listParts]
  | m :: ms, p => by
    rw [Message.listParts, List.mem_append, Message.mem_parts m p, Message.mem_listParts ms p]
    simp only [List.mem_cons, exists_eq_or_imp]

end

/-- **The parts of a file** are those of what it declares and sets itself, and the own parts of
its messages at any depth. -/
theorem File.mem_parts (f : File) (p : Part) :
    p ∈ f.parts everywhere ↔ p = .file f ∨ (∃ e ∈ f.enums, p ∈ e.parts everywhere) ∨
      (∃ m, f.HasMessage m ∧ p ∈ m.ownParts) ∨ (∃ s ∈ f.services, p ∈ s.parts everywhere) ∨
      (∃ c ∈ f.customOptions, p ∈ c.parts everywhere) ∨ p ∈ optionParts everywhere f.options := by
  have hmessages : p ∈ Message.listParts everywhere f.messages ↔
      ∃ m, f.HasMessage m ∧ p ∈ m.ownParts := by
    rw [Message.mem_listParts]
    constructor
    · rintro ⟨top, htop, m, hm, hp⟩
      exact ⟨m, ⟨top, htop, hm⟩, hp⟩
    · rintro ⟨m, ⟨top, htop, hm⟩, hp⟩
      exact ⟨top, htop, m, hm, hp⟩
  rw [File.parts, mem_followedBy]
  simp only [List.mem_append, List.mem_flatMap, hmessages, or_assoc]

/-! ## References -/

/-- The references of settings are their extensions. -/
theorem typeRef_mem_optionParts {t : TypeRef} {os : List OptionSetting} :
    .typeRef t ∈ optionParts everywhere os ↔ ∃ o ∈ os, o.extension = t := by
  simp [mem_optionParts, eq_comm]

/-- An enum type refers to the extensions set on it and on its constants. -/
theorem EnumType.typeRef_mem_parts {t : TypeRef} {e : EnumType} :
    .typeRef t ∈ e.parts everywhere ↔
      (∃ c ∈ e.constants, ∃ o ∈ c.options, o.extension = t) ∨ ∃ o ∈ e.options, o.extension = t := by
  simp [EnumType.parts, EnumConstant.parts, mem_followedBy, typeRef_mem_optionParts]

/-- A field refers to its type, and to the extensions set on it. -/
theorem Field.typeRef_mem_parts {t : TypeRef} {x : Field} :
    .typeRef t ∈ x.parts everywhere ↔ x.type = t ∨ ∃ o ∈ x.options, o.extension = t := by
  simp [Field.parts, mem_followedBy, typeRef_mem_optionParts, eq_comm]

theorem Oneof.typeRef_mem_parts {t : TypeRef} {x : Oneof} :
    .typeRef t ∈ x.parts everywhere ↔
      (∃ y ∈ x.fields, y.type = t ∨ ∃ o ∈ y.options, o.extension = t) ∨
        ∃ o ∈ x.options, o.extension = t := by
  simp [Oneof.parts, mem_followedBy, typeRef_mem_optionParts, Field.typeRef_mem_parts]

/-- A service refers to the inputs and outputs of its methods, and to the extensions set on either.
-/
theorem Service.typeRef_mem_parts {t : TypeRef} {s : Service} :
    .typeRef t ∈ s.parts everywhere ↔
      (∃ m ∈ s.methods, m.input = t ∨ m.output = t ∨ ∃ o ∈ m.options, o.extension = t) ∨
        ∃ o ∈ s.options, o.extension = t := by
  simp [Service.parts, Method.parts, mem_followedBy, typeRef_mem_optionParts, eq_comm]

theorem Message.typeRef_mem_ownParts {t : TypeRef} {m : Message} :
    .typeRef t ∈ m.ownParts ↔ (∃ e ∈ m.enums, .typeRef t ∈ e.parts everywhere) ∨
      (∃ o ∈ m.oneofs, .typeRef t ∈ o.parts everywhere) ∨
      (∃ x ∈ m.fields, .typeRef t ∈ x.parts everywhere) ∨ ∃ o ∈ m.options, o.extension = t := by
  simp [Message.ownParts, typeRef_mem_optionParts]

namespace File

variable {f : File} {p : Part} {t : TypeRef}

/-! The parts of whatever a file declares are parts of the file. -/

/-- What belongs to a message of the file is visited, however deep the message is nested. -/
theorem mem_parts_of_message {m : Message} (hm : f.HasMessage m) (hp : p ∈ m.ownParts) :
    p ∈ f.parts everywhere :=
  (f.mem_parts p).mpr (.inr (.inr (.inl ⟨m, hm, hp⟩)))

/-- An enum type is visited at the top of the file and inside messages. -/
theorem mem_parts_of_enum {e : EnumType} (he : f.HasEnum e) (hp : p ∈ e.parts everywhere) :
    p ∈ f.parts everywhere := by
  rcases he with he | ⟨m, hm, he⟩
  · exact (f.mem_parts p).mpr (.inr (.inl ⟨e, he, hp⟩))
  · refine mem_parts_of_message hm ?_
    simp only [Message.ownParts, List.mem_cons, List.mem_append, List.mem_flatMap]
    exact .inr (.inl (.inl (.inl ⟨e, he, hp⟩)))

theorem mem_parts_of_oneof {o : Oneof} (ho : f.HasOneof o) (hp : p ∈ o.parts everywhere) :
    p ∈ f.parts everywhere := by
  obtain ⟨m, hm, ho⟩ := ho
  refine mem_parts_of_message hm ?_
  simp only [Message.ownParts, List.mem_cons, List.mem_append, List.mem_flatMap]
  exact .inr (.inl (.inl (.inr ⟨o, ho, hp⟩)))

/-- A field is visited in its message and in a oneof. -/
theorem mem_parts_of_field {x : Field} (hx : f.HasField x) (hp : p ∈ x.parts everywhere) :
    p ∈ f.parts everywhere := by
  rcases hx with ⟨m, hm, hx⟩ | ⟨o, ho, hx⟩
  · refine mem_parts_of_message hm ?_
    simp only [Message.ownParts, List.mem_cons, List.mem_append, List.mem_flatMap]
    exact .inr (.inl (.inr ⟨x, hx, hp⟩))
  · refine mem_parts_of_oneof ho ?_
    rw [Oneof.parts, mem_followedBy, List.mem_append, List.mem_flatMap]
    exact .inr (.inl ⟨x, hx, hp⟩)

theorem mem_parts_of_service {s : Service} (hs : s ∈ f.services) (hp : p ∈ s.parts everywhere) :
    p ∈ f.parts everywhere :=
  (f.mem_parts p).mpr (.inr (.inr (.inr (.inl ⟨s, hs, hp⟩))))

theorem typeRef_mem_parts_of_method {m : Method} (hm : f.HasMethod m)
    (ht : m.input = t ∨ m.output = t ∨ ∃ o ∈ m.options, o.extension = t) :
    .typeRef t ∈ f.parts everywhere := by
  obtain ⟨s, hs, hm⟩ := hm
  exact mem_parts_of_service hs (Service.typeRef_mem_parts.mpr (.inl ⟨m, hm, ht⟩))

/-- **The extension of every setting is visited**, wherever the setting stands. -/
theorem typeRef_mem_parts_of_sets {o : OptionSetting} (ho : f.Sets o) :
    .typeRef o.extension ∈ f.parts everywhere := by
  cases ho with
  | file h =>
    have hp := typeRef_mem_optionParts.mpr ⟨o, h, rfl⟩
    exact (f.mem_parts _).mpr (.inr (.inr (.inr (.inr (.inr hp)))))
  | message hm h =>
    exact mem_parts_of_message hm
      (Message.typeRef_mem_ownParts.mpr (.inr (.inr (.inr ⟨o, h, rfl⟩))))
  | enum he h => exact mem_parts_of_enum he (EnumType.typeRef_mem_parts.mpr (.inr ⟨o, h, rfl⟩))
  | @enumConstant c hc h =>
    obtain ⟨e, he, hc⟩ := hc
    exact mem_parts_of_enum he (EnumType.typeRef_mem_parts.mpr (.inl ⟨c, hc, o, h, rfl⟩))
  | field hx h => exact mem_parts_of_field hx (Field.typeRef_mem_parts.mpr (.inr ⟨o, h, rfl⟩))
  | oneof hx h => exact mem_parts_of_oneof hx (Oneof.typeRef_mem_parts.mpr (.inr ⟨o, h, rfl⟩))
  | service hs h =>
    exact mem_parts_of_service hs (Service.typeRef_mem_parts.mpr (.inr ⟨o, h, rfl⟩))
  | method hm h => exact typeRef_mem_parts_of_method hm (.inr (.inr ⟨o, h, rfl⟩))

/-! A reference in the parts of a declaration is one of the file. -/

/-- A reference that an enum type's visit meets is one of the file. -/
theorem refersTo_of_enum {e : EnumType} (he : f.HasEnum e)
    (ht : .typeRef t ∈ e.parts everywhere) : f.RefersTo t := by
  obtain ⟨c, hc, o, ho, rfl⟩ | ⟨o, ho, rfl⟩ := EnumType.typeRef_mem_parts.mp ht
  · exact .option (.enumConstant ⟨e, he, hc⟩ ho)
  · exact .option (.enum he ho)

theorem refersTo_of_field {x : Field} (hx : f.HasField x)
    (ht : x.type = t ∨ ∃ o ∈ x.options, o.extension = t) : f.RefersTo t := by
  rcases ht with rfl | ⟨o, ho, rfl⟩
  · exact .fieldType hx
  · exact .option (.field hx ho)

/-- A reference among a message's own parts is one of the file. The cases are the four places where
it can stand. -/
theorem refersTo_of_message {m : Message} (hm : f.HasMessage m) (ht : .typeRef t ∈ m.ownParts) :
    f.RefersTo t := by
  obtain ⟨e, he, ht⟩ | ⟨x, hx, ht⟩ | ⟨x, hx, ht⟩ | ⟨o, ho, rfl⟩ :=
    Message.typeRef_mem_ownParts.mp ht
  · exact refersTo_of_enum (.inr ⟨m, hm, he⟩) ht
  · obtain ⟨y, hy, ht⟩ | ⟨o, ho, rfl⟩ := Oneof.typeRef_mem_parts.mp ht
    · exact refersTo_of_field (.inr ⟨x, ⟨m, hm, hx⟩, hy⟩) ht
    · exact .option (.oneof ⟨m, hm, hx⟩ ho)
  · exact refersTo_of_field (.inl ⟨m, hm, hx⟩) (Field.typeRef_mem_parts.mp ht)
  · exact .option (.message hm ho)

theorem refersTo_of_service {s : Service} (hs : s ∈ f.services)
    (ht : .typeRef t ∈ s.parts everywhere) : f.RefersTo t := by
  obtain ⟨m, hm, rfl | rfl | ⟨o, ho, rfl⟩⟩ | ⟨o, ho, rfl⟩ := Service.typeRef_mem_parts.mp ht
  · exact .input ⟨s, hs, hm⟩
  · exact .output ⟨s, hs, hm⟩
  · exact .option (.method ⟨s, hs, hm⟩ ho)
  · exact .option (.service hs ho)

/-- **The traversal lists exactly the references of a file.** -/
theorem typeRef_mem_parts : .typeRef t ∈ f.parts everywhere ↔ f.RefersTo t := by
  constructor
  · intro ht
    obtain h | ⟨e, he, ht⟩ | ⟨m, hm, ht⟩ | ⟨s, hs, ht⟩ | ⟨c, hc, ht⟩ | ht := (f.mem_parts _).mp ht
    · cases h
    · exact refersTo_of_enum (.inl he) ht
    · exact refersTo_of_message hm ht
    · exact refersTo_of_service hs ht
    · obtain h | h := List.mem_cons.mp ht
      · cases h
      · cases List.mem_singleton.mp h
        exact .customOption hc
    · obtain ⟨o, ho, rfl⟩ := typeRef_mem_optionParts.mp ht
      exact .option (.file ho)
  · -- the other way round, each kind of reference stands in a part that the traversal lists
    rintro (hx | hm | hm | hc | ho)
    · exact mem_parts_of_field hx (Field.typeRef_mem_parts.mpr (.inl rfl))
    · exact typeRef_mem_parts_of_method hm (.inl rfl)
    · exact typeRef_mem_parts_of_method hm (.inr (.inl rfl))
    · refine (f.mem_parts _).mpr (.inr (.inr (.inr (.inr (.inl ⟨_, hc, ?_⟩)))))
      exact List.mem_cons_of_mem _ List.mem_cons_self
    · exact typeRef_mem_parts_of_sets ho

/-- Custom options stand at the top of a file only. -/
theorem customOption_mem_parts {c : CustomOption} :
    .customOption c ∈ f.parts everywhere ↔ c ∈ f.customOptions := by
  simp [File.mem_parts, Message.ownParts, EnumType.parts, EnumConstant.parts, Oneof.parts,
    Field.parts, Service.parts, Method.parts, CustomOption.parts, mem_followedBy, mem_optionParts]

/-! ## Imports -/

open Imports

/-- **What a part asks for**: a reference the file of its type, unless it is in the file itself or
needs no file, and a custom option the descriptor file. -/
theorem request?_eq_some {current name : String} :
    request? current p = some name ↔
      (∃ t, p = .typeRef t ∧ t.filename = name ∧ name ≠ "" ∧ name ≠ current) ∨
        ((∃ c, p = .customOption c) ∧ name = descriptorFile) := by
  cases p with
  | customOption c => simp [request?, eq_comm]
  | typeRef t =>
    simp only [request?, Part.typeRef.injEq, reduceCtorEq, exists_false, false_and, or_false,
      exists_eq_left', Option.ite_none_left_eq_some, Option.some.injEq, Bool.or_eq_true,
      String.isEmpty_iff, beq_iff_eq, not_or]
    constructor
    · rintro ⟨⟨hempty, hself⟩, rfl⟩
      exact ⟨rfl, hempty, hself⟩
    · rintro ⟨rfl, hempty, hself⟩
      exact ⟨⟨hempty, hself⟩, rfl⟩
  | _ => simp [request?]

/-- The imports strictly ascend. -/
theorem imports_pairwise (f : File) : f.imports.Pairwise (· < ·) := by
  have h := ascending_foldl_step KeyMap.ascending_nil f.name (f.parts everywhere)
  exact List.pairwise_map.mpr h

/-- **A file imports exactly what it refers to**: in ascending order of their bytes, the files of
all references to other files, and the descriptor file if it declares custom options. Lowering
keeps the imports. -/
theorem imports_exact (f : File) :
    f.imports.Pairwise (fun a b => Utf8.bytes a < Utf8.bytes b) ∧
    (∀ name, name ∈ f.imports ↔
      (∃ t, f.RefersTo t ∧ t.filename = name ∧ name ≠ "" ∧ name ≠ f.name) ∨
        (f.customOptions ≠ [] ∧ name = descriptorFile)) ∧
    ∀ file, f.lower = .ok file → file.imports = f.imports := by
  refine ⟨f.imports_pairwise.imp Utf8.bytes_lt_bytes, ?_, ?_⟩
  · intro name
    rw [mem_imports, requests, List.mem_filterMap]
    -- only type references and custom options ask for a file
    simp only [request?_eq_some]
    constructor
    · rintro ⟨p, hp, ⟨t, rfl, hname⟩ | ⟨⟨c, rfl⟩, hname⟩⟩
      · exact .inl ⟨t, typeRef_mem_parts.mp hp, hname⟩
      · exact .inr ⟨List.ne_nil_of_mem (customOption_mem_parts.mp hp), hname⟩
    · rintro (⟨t, ht, hname⟩ | ⟨hcustom, hname⟩)
      · exact ⟨_, typeRef_mem_parts.mpr ht, .inl ⟨t, rfl, hname⟩⟩
      · obtain ⟨c, hc⟩ := List.exists_mem_of_ne_nil _ hcustom
        exact ⟨_, customOption_mem_parts.mpr hc, .inr ⟨⟨c, rfl⟩, hname⟩⟩
  · -- lowering hands the imports on as they are
    intro file h
    obtain ⟨es, -, h⟩ := Outcome.bind_eq_ok.mp h
    obtain ⟨ms, -, h⟩ := Outcome.bind_eq_ok.mp h
    obtain rfl := Outcome.pure_eq_ok.mp h
    rfl

/-- A file with a field in a oneof of a nested message, an option on that oneof, and a custom
option whose type is the file's own. -/
def nestedOneof : File :=
  let author : Field := { name := "author", number := 1, type := ⟨"Person", "person.proto", "p"⟩ }
  let owner : Oneof := {
    name := "owner", fields := [author],
    options := [{ extension := ⟨"tag", "tag.proto", "p"⟩, value := .bool true }] }
  { name := "book.proto"
    messages := [{ name := "Book", messages := [{ name := "Page", oneofs := [owner] }] }]
    customOptions := [{ name := "shelf", number := 50000, type := ⟨"Book", "book.proto", ""⟩ }] }

/-- The file of the nested field is imported, the file itself is not, and the lowered file has the
imports of the document. -/
theorem imports_nestedOneof :
    "person.proto" ∈ nestedOneof.imports ∧ "book.proto" ∉ nestedOneof.imports ∧
      ∃ file, nestedOneof.lower = .ok file ∧ file.imports = nestedOneof.imports := by
  have hexact := imports_exact nestedOneof
  have hpage : nestedOneof.HasMessage _ :=
    ⟨_, List.mem_cons_self, .nested (.self _) List.mem_cons_self⟩
  have hauthor : nestedOneof.HasField _ :=
    .inr ⟨_, ⟨_, hpage, List.mem_cons_self⟩, List.mem_cons_self⟩
  refine ⟨?_, ?_, ?_⟩
  · exact (hexact.2.1 _).mpr (.inl ⟨_, .fieldType hauthor, rfl, by decide, by decide⟩)
  · intro h
    rcases (hexact.2.1 _).mp h with ⟨t, -, -, -, hself⟩ | ⟨-, hdescriptor⟩
    · exact hself rfl
    · exact absurd hdescriptor (by decide)
  · have hlower : ∃ file, nestedOneof.lower = .ok file := ⟨_, by with_unfolding_all rfl⟩
    obtain ⟨file, hlower⟩ := hlower
    exact ⟨file, hlower, hexact.2.2 file hlower⟩

end File

end Schema

/-! ## A file's own name -/

namespace Imports

open Schema (Part everywhere descriptorFile)

/-- **The imports after a sequence of visits**, each to a part with everything inside it, in the
file named `current`. -/
def visitAll (current : String) (parts : List Part) : NameSet := parts.foldl (collect current) []

/-- One visit adds what the part and the parts inside it ask for. -/
theorem mem_collect (current : String) (imports : NameSet) (part : Part) (name : String) :
    name ∈ (collect current imports part).toList ↔
      name ∈ requests current (part.parts everywhere) ∨ name ∈ imports.toList :=
  mem_foldl_step current (part.parts everywhere) imports name

/-- **What is collected** over parts is what was there before and what the parts ask for. -/
theorem mem_foldl_collect (current : String) (parts : List Part) (imports : NameSet)
    (name : String) :
    name ∈ (parts.foldl (collect current) imports).toList ↔
      (∃ part ∈ parts, name ∈ requests current (part.parts everywhere)) ∨
        name ∈ imports.toList := by
  induction parts generalizing imports with
  | nil => simp
  | cons part parts ih =>
    rw [List.foldl_cons, ih, mem_collect, ← or_assoc]
    simp only [List.mem_cons, exists_eq_or_imp]
    rw [or_comm (b := name ∈ requests current (part.parts everywhere))]

/-- No reference asks for the file itself, so only a custom option can. -/
theorem self_mem_requests (current : String) (parts : List Part) :
    current ∈ requests current parts ↔
      current = descriptorFile ∧ ∃ c, .customOption c ∈ parts := by
  rw [requests, List.mem_filterMap]
  simp only [Schema.File.request?_eq_some]
  constructor
  · rintro ⟨p, hp, ⟨t, -, -, -, hself⟩ | ⟨⟨c, rfl⟩, hname⟩⟩
    · exact absurd rfl hself
    · exact ⟨hname, c, hp⟩
  · rintro ⟨hname, c, hc⟩
    exact ⟨_, hc, .inr ⟨⟨c, rfl⟩, hname⟩⟩

/-- **When a file imports itself.** After any visits the file's own name is among the imports
exactly if it is that of the descriptor file and a custom option was visited: references to the
file itself are left out, but what custom options need is not compared with its name. So a
document imports itself exactly if it is the descriptor file and declares a custom option. -/
theorem imports_itself_iff (current : String) (parts : List Part) (f : Schema.File) :
    (current ∈ (visitAll current parts).toList ↔
      current = descriptorFile ∧
        ∃ part ∈ parts, ∃ c, .customOption c ∈ part.parts everywhere) ∧
    (f.name ∈ f.imports ↔ f.name = descriptorFile ∧ f.customOptions ≠ []) := by
  constructor
  · have hempty : current ∉ NameSet.toList [] := List.not_mem_nil
    rw [visitAll, mem_foldl_collect, or_iff_left hempty]
    -- a type reference to the file itself asks for nothing, so only a custom option can
    simp only [self_mem_requests]
    constructor
    · rintro ⟨part, hpart, hname, c, hc⟩
      exact ⟨hname, part, hpart, c, hc⟩
    · rintro ⟨hname, part, hpart, c, hc⟩
      exact ⟨part, hpart, hname, c, hc⟩
  · rw [f.mem_imports, self_mem_requests]
    simp only [Schema.File.customOption_mem_parts]
    constructor
    · rintro ⟨hname, c, hc⟩
      exact ⟨hname, List.ne_nil_of_mem hc⟩
    · rintro ⟨hname, hcustom⟩
      exact ⟨hname, List.exists_mem_of_ne_nil _ hcustom⟩

/-- A document for the descriptor file itself, with one custom option. -/
def descriptorDocument : Schema.File where
  name := descriptorFile
  customOptions := [{ name := "shelf", number := 50000, type := .here "string" }]

/-- It imports itself. -/
theorem descriptorDocument_imports_itself :
    descriptorDocument.name ∈ descriptorDocument.imports ∧
      descriptorFile ∈ (visitAll descriptorFile [.customOption {}]).toList := by
  decide

end Imports

end ProtoSchema
