/-
The parts of a document in reading order.

A part comes before the parts it contains. Within a part the groups have a fixed order:
declarations and type references first, options last. A traversal may stop at chosen kinds of
parts: such a part is still listed, but nothing inside it is.
-/
import ProtoSchema.Schema.Basic

set_option autoImplicit false

namespace ProtoSchema

namespace Schema

/-- **A kind of part.** -/
inductive PartKind where
  | file
  | message
  | enum
  | enumConstant
  | field
  | oneof
  | service
  | method
  | customOption
  | option
  | typeRef
deriving DecidableEq, Repr

/-- **A part of a document.** -/
inductive Part where
  | file (f : File)
  | message (m : Message)
  | enum (e : EnumType)
  | enumConstant (c : EnumConstant)
  | field (f : Field)
  | oneof (o : Oneof)
  | service (s : Service)
  | method (m : Method)
  | customOption (c : CustomOption)
  | option (o : OptionSetting)
  | typeRef (t : TypeRef)
deriving Repr

/-- The kind of a part. -/
def Part.kind : Part → PartKind
  | .file _ => .file
  | .message _ => .message
  | .enum _ => .enum
  | .enumConstant _ => .enumConstant
  | .field _ => .field
  | .oneof _ => .oneof
  | .service _ => .service
  | .method _ => .method
  | .customOption _ => .customOption
  | .option _ => .option
  | .typeRef _ => .typeRef

/-- A part followed by those inside it, unless the traversal stops at its kind. -/
def Part.followedBy (stop : PartKind → Bool) (part : Part) (inside : List Part) : List Part :=
  part :: if stop part.kind then [] else inside

/-! ## The parts inside each kind -/

def OptionSetting.parts (stop : PartKind → Bool) (o : OptionSetting) : List Part :=
  (Part.option o).followedBy stop [.typeRef o.extension]

/-- The parts of several options. -/
def optionParts (stop : PartKind → Bool) (os : List OptionSetting) : List Part :=
  os.flatMap (OptionSetting.parts stop)

def EnumConstant.parts (stop : PartKind → Bool) (c : EnumConstant) : List Part :=
  (Part.enumConstant c).followedBy stop (optionParts stop c.options)

def EnumType.parts (stop : PartKind → Bool) (e : EnumType) : List Part :=
  (Part.enum e).followedBy stop
    (e.constants.flatMap (EnumConstant.parts stop) ++ optionParts stop e.options)

def Field.parts (stop : PartKind → Bool) (f : Field) : List Part :=
  (Part.field f).followedBy stop (.typeRef f.type :: optionParts stop f.options)

def Oneof.parts (stop : PartKind → Bool) (o : Oneof) : List Part :=
  (Part.oneof o).followedBy stop
    (o.fields.flatMap (Field.parts stop) ++ optionParts stop o.options)

mutual

def Message.parts (stop : PartKind → Bool) : Message → List Part
  | ⟨name, help, enums, messages, oneofs, fields, options, reservedRanges, reservedNames⟩ =>
    (Part.message
        ⟨name, help, enums, messages, oneofs, fields, options, reservedRanges,
          reservedNames⟩).followedBy stop
      (enums.flatMap (EnumType.parts stop) ++ Message.listParts stop messages ++
        oneofs.flatMap (Oneof.parts stop) ++ fields.flatMap (Field.parts stop) ++
        optionParts stop options)

/-- The parts of several messages. -/
def Message.listParts (stop : PartKind → Bool) : List Message → List Part
  | [] => []
  | m :: rest => m.parts stop ++ Message.listParts stop rest

end

def Method.parts (stop : PartKind → Bool) (m : Method) : List Part :=
  (Part.method m).followedBy stop
    (.typeRef m.input :: .typeRef m.output :: optionParts stop m.options)

def Service.parts (stop : PartKind → Bool) (s : Service) : List Part :=
  (Part.service s).followedBy stop
    (s.methods.flatMap (Method.parts stop) ++ optionParts stop s.options)

def CustomOption.parts (stop : PartKind → Bool) (c : CustomOption) : List Part :=
  (Part.customOption c).followedBy stop [.typeRef c.type]

/-- **The parts of a document**, itself first. -/
def File.parts (stop : PartKind → Bool) (f : File) : List Part :=
  (Part.file f).followedBy stop
    (f.enums.flatMap (EnumType.parts stop) ++ Message.listParts stop f.messages ++
      f.services.flatMap (Service.parts stop) ++
      f.customOptions.flatMap (CustomOption.parts stop) ++ optionParts stop f.options)

/-- The traversal that stops nowhere. -/
def everywhere : PartKind → Bool := fun _ => false

/-- The parts of a part, itself first. -/
def Part.parts (stop : PartKind → Bool) : Part → List Part
  | .file f => f.parts stop
  | .message m => m.parts stop
  | .enum e => e.parts stop
  | .enumConstant c => c.parts stop
  | .field f => f.parts stop
  | .oneof o => o.parts stop
  | .service s => s.parts stop
  | .method m => m.parts stop
  | .customOption c => c.parts stop
  | .option o => o.parts stop
  | .typeRef t => [.typeRef t]

/-! ## Views of a traversal -/

/-- The type reference that a part is. -/
def Part.typeRef? : Part → Option TypeRef
  | .typeRef t => some t
  | _ => none

/-- The type references of a document in reading order. -/
def File.typeRefs (f : File) : List TypeRef := (f.parts everywhere).filterMap Part.typeRef?

end Schema

end ProtoSchema
