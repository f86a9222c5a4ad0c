/-
The settings of a document, part by part.

The file and every declaration in it have a list of option settings (`Part.settings`). Lowering
merges each of these lists by itself and keeps the declarations in reading order; so the
options that the lowered file writes are, in this order, the merged settings of the parts.
-/
import ProtoSchema.Declaration.Lowering
import ProtoSchema.Proofs.Declaration.Written

set_option autoImplicit false

namespace ProtoSchema

namespace Schema

open Outcome
open Declaration (writtenAll)

/-- **The option settings of a part**; parts that are no declarations have none. -/
def Part.settings : Part → List OptionSetting
  | .file f => f.options
  | .message m => m.options
  | .enum e => e.options
  | .enumConstant c => c.options
  | .field f => f.options
  | .oneof o => o.options
  | .service s => s.options
  | .method m => m.options
  | .customOption _ | .option _ | .typeRef _ => []

/-- The merged options of parts, in reading order. -/
def mergedOptions (parts : List Part) : List OptionAssignment :=
  parts.flatMap fun p => mergeOptions p.settings

theorem mergedOptions_append (ps qs : List Part) :
    mergedOptions (ps ++ qs) = mergedOptions ps ++ mergedOptions qs := List.flatMap_append

/-- A part's own options come before those of what is inside it. -/
theorem mergedOptions_followedBy (p : Part) (inside : List Part) :
    mergedOptions (p.followedBy everywhere inside) =
      mergeOptions p.settings ++ mergedOptions inside := rfl

theorem mergedOptions_flatMap {α : Type} (xs : List α) (f : α → List Part) :
    mergedOptions (xs.flatMap f) = xs.flatMap fun x => mergedOptions (f x) := by
  rw [mergedOptions, List.flatMap_assoc]
  rfl

/-- The parts of options have no settings of their own. -/
theorem mergedOptions_optionParts (os : List OptionSetting) :
    mergedOptions (optionParts everywhere os) = [] := by
  rw [optionParts, mergedOptions_flatMap, List.flatMap_eq_nil_iff]
  intro o _
  rfl

/-- A type reference has no options. -/
theorem mergedOptions_typeRef_cons (t : TypeRef) (ps : List Part) :
    mergedOptions (.typeRef t :: ps) = mergedOptions ps := rfl

/-! ## What lowered declarations write -/

/-- The options of written ones, without their forms. -/
def assignmentsOf (ws : List (OptionForm × OptionAssignment)) : List OptionAssignment :=
  ws.map Prod.snd

theorem assignmentsOf_append (ws vs : List (OptionForm × OptionAssignment)) :
    assignmentsOf (ws ++ vs) = assignmentsOf ws ++ assignmentsOf vs := List.map_append

/-- All options of a heading are written. -/
theorem assignmentsOf_written (form : OptionForm) (head : Heading) :
    assignmentsOf (head.written form) = head.options := by
  rw [assignmentsOf, Heading.written, List.map_map]
  exact List.map_id _

/-- Without paths it does not matter in which form options are written. -/
theorem firstFault?_of_path_eq_empty {ws : List (OptionForm × OptionAssignment)}
    (h : ∀ w ∈ ws, w.2.path = "") :
    Declaration.firstFault? ws = (assignmentsOf ws).findSome? fun o => o.value.fault? o.name := by
  induction ws with
  | nil => rfl
  | cons w ws ih =>
    obtain ⟨hw, hws⟩ := List.forall_mem_cons.mp h
    rw [Declaration.firstFault?] at ih ⊢
    rw [List.findSome?_cons, OptionAssignment.fault?_of_path_eq_empty hw, ih hws]
    rfl

/-- Things that are lowered one by one write the options of their parts one after the other. -/
theorem assignmentsOf_writtenAll_map {α : Type} (lower : α → Declaration) (parts : α → List Part)
    (h : ∀ x, assignmentsOf (lower x).written = mergedOptions (parts x)) (xs : List α) :
    assignmentsOf (writtenAll (xs.map lower)) = mergedOptions (xs.flatMap parts) := by
  induction xs with
  | nil => rfl
  | cons x xs ih =>
    rw [List.map_cons, writtenAll, assignmentsOf_append, h, ih, List.flatMap_cons,
      mergedOptions_append]

theorem EnumConstant.written_lower (c : EnumConstant) :
    assignmentsOf c.lower.written = mergedOptions (c.parts everywhere) := by
  rw [EnumConstant.lower, Declaration.written, assignmentsOf_written, EnumConstant.parts,
    mergedOptions_followedBy, mergedOptions_optionParts, List.append_nil]
  rfl

theorem Field.written_lower (f : Field) :
    assignmentsOf f.lower.written = mergedOptions (f.parts everywhere) := by
  rw [Field.lower, Declaration.written, assignmentsOf_written, Field.parts,
    mergedOptions_followedBy, mergedOptions_typeRef_cons, mergedOptions_optionParts,
    List.append_nil]
  rfl

theorem Oneof.written_lower (o : Oneof) :
    assignmentsOf o.lower.written = mergedOptions (o.parts everywhere) := by
  rw [Oneof.lower, Declaration.written, assignmentsOf_append, assignmentsOf_written,
    assignmentsOf_writtenAll_map _ _ Field.written_lower, Oneof.parts, mergedOptions_followedBy,
    mergedOptions_append, mergedOptions_optionParts, List.append_nil]
  rfl

theorem Method.written_lower (m : Method) :
    assignmentsOf m.lower.written = mergedOptions (m.parts everywhere) := by
  rw [Method.lower, Declaration.written, assignmentsOf_written, Method.parts,
    mergedOptions_followedBy, mergedOptions_typeRef_cons, mergedOptions_typeRef_cons,
    mergedOptions_optionParts, List.append_nil]
  rfl

theorem Service.written_lower (s : Service) :
    assignmentsOf s.lower.written = mergedOptions (s.parts everywhere) := by
  rw [Service.lower, Declaration.written, assignmentsOf_append, assignmentsOf_written,
    assignmentsOf_writtenAll_map _ _ Method.written_lower, Service.parts,
    mergedOptions_followedBy, mergedOptions_append, mergedOptions_optionParts, List.append_nil]
  rfl

/-- A custom option is lowered to declarations without options. -/
theorem CustomOption.written_lower (c : CustomOption) :
    assignmentsOf c.lower.written = mergedOptions (c.parts everywhere) := rfl

/-- An added constant has no options. -/
theorem EnumType.writtenAll_addedConstants (e : EnumType) : writtenAll e.addedConstants = [] := by
  rw [EnumType.addedConstants]
  split <;> rfl

/-- A lowered enum type writes its own merged options and those of its constants, and no others. -/
theorem EnumType.written_lower {e : EnumType} {d : Declaration} (h : e.lower = .ok d) :
    assignmentsOf d.written = mergedOptions (e.parts everywhere) := by
  obtain ⟨reserved, -, h⟩ := bind_eq_ok.mp h
  obtain rfl := pure_eq_ok.mp h
  -- the constant that lowering may add has no options
  rw [Declaration.written, Declaration.writtenAll_append, e.writtenAll_addedConstants,
    List.nil_append, assignmentsOf_append, assignmentsOf_written,
    assignmentsOf_writtenAll_map _ _ EnumConstant.written_lower, EnumType.parts,
    mergedOptions_followedBy, mergedOptions_append, mergedOptions_optionParts, List.append_nil]
  rfl

theorem EnumType.writtenAll_lowerAll {es : List EnumType} {ds : List Declaration}
    (h : EnumType.lowerAll es = .ok ds) :
    assignmentsOf (writtenAll ds) = mergedOptions (es.flatMap (EnumType.parts everywhere)) := by
  induction es generalizing ds with
  | nil =>
    cases h
    rfl
  | cons e es ih =>
    obtain ⟨d, hd, h⟩ := bind_eq_ok.mp h
    obtain ⟨ds', hds, h⟩ := bind_eq_ok.mp h
    obtain rfl := pure_eq_ok.mp h
    rw [writtenAll, assignmentsOf_append, EnumType.written_lower hd, ih hds, List.flatMap_cons,
      mergedOptions_append]

mutual

/-- **A lowered message writes the merged options of all its parts**, in the order of the visit. The
induction is on the message. -/
theorem Message.written_lower : ∀ {m : Message} {d : Declaration}, m.lower = .ok d →
    assignmentsOf d.written = mergedOptions (m.parts everywhere)
  | ⟨name, help, enums, messages, oneofs, fields, options, ranges, names⟩, d, h => by
    rw [Message.lower] at h
    obtain ⟨es, hes, h⟩ := bind_eq_ok.mp h
    obtain ⟨ms, hms, h⟩ := bind_eq_ok.mp h
    obtain ⟨reserved, -, h⟩ := bind_eq_ok.mp h
    obtain rfl := pure_eq_ok.mp h
    simp only [Declaration.written, Declaration.writtenAll_append, assignmentsOf_append,
      assignmentsOf_written, EnumType.writtenAll_lowerAll hes, Message.writtenAll_lowerAll hms,
      assignmentsOf_writtenAll_map _ _ Oneof.written_lower,
      assignmentsOf_writtenAll_map _ _ Field.written_lower, Message.parts,
      mergedOptions_followedBy, mergedOptions_append, mergedOptions_optionParts, List.append_nil,
      Part.settings]

theorem Message.writtenAll_lowerAll : ∀ {ms : List Message} {ds : List Declaration},
    Message.lowerAll ms = .ok ds →
    assignmentsOf (writtenAll ds) = mergedOptions (Message.listParts everywhere ms)
  | [], ds, h => by
    cases h
    rfl
  | m :: ms, ds, h => by
    rw [Message.lowerAll] at h
    obtain ⟨d, hd, h⟩ := bind_eq_ok.mp h
    obtain ⟨ds', hds, h⟩ := bind_eq_ok.mp h
    obtain rfl := pure_eq_ok.mp h
    rw [writtenAll, assignmentsOf_append, Message.written_lower hd, Message.writtenAll_lowerAll hds,
      Message.listParts, mergedOptions_append]

end

/-- **A lowered file writes the merged settings of its parts**, in reading order. -/
theorem File.written_lower {f : File} {file : ProtoFile} (h : f.lower = .ok file) :
    assignmentsOf file.written = mergedOptions (f.parts everywhere) := by
  obtain ⟨es, hes, h⟩ := bind_eq_ok.mp h
  obtain ⟨ms, hms, h⟩ := bind_eq_ok.mp h
  obtain rfl := pure_eq_ok.mp h
  -- custom options set no options themselves
  have hcustom : mergedOptions (f.customOptions.flatMap (CustomOption.parts everywhere)) = [] := by
    rw [mergedOptions_flatMap, List.flatMap_eq_nil_iff]
    intro c _
    rfl
  simp only [ProtoFile.written, Declaration.writtenAll_append, assignmentsOf_append,
    assignmentsOf_written, assignmentsOf_writtenAll_map _ _ CustomOption.written_lower,
    EnumType.writtenAll_lowerAll hes, Message.writtenAll_lowerAll hms,
    assignmentsOf_writtenAll_map _ _ Service.written_lower, File.parts, mergedOptions_followedBy,
    mergedOptions_append, mergedOptions_optionParts, hcustom, List.nil_append, List.append_nil,
    Part.settings]

end Schema

end ProtoSchema
