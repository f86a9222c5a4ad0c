/-
From schema documents to declarations.

Each part of a document becomes one declaration in the same place, in a fixed order of groups:
custom options, enums, messages, services; inside a message enums, messages, oneofs, fields.
A custom option becomes a block of its own that extends the options it belongs to. An enum
without a constant for zero gets one, before its own.

The only thing that can be wrong with a document at this point is what its enums and messages
reserve. They are checked in the order of the groups, the parts inside a message before the
message itself, and the first fault is reported.
-/
import ProtoSchema.ConstantName
import ProtoSchema.Declaration.Basic
import ProtoSchema.Imports

set_option autoImplicit false

namespace ProtoSchema

namespace Schema

/-- The declaration of an enum constant. -/
def EnumConstant.lower (c : EnumConstant) : Declaration :=
  .enumConstant { name := c.name, help := c.help, options := mergeOptions c.options } c.number

/-- The zero constant that an enum lacks, if it does. -/
def EnumType.addedConstants (e : EnumType) : List Declaration :=
  if e.constants.any fun c => c.number == 0 then []
  else [.enumConstant { name := ConstantName.zero e.name } 0]

/-- **The declaration of an enum.** -/
def EnumType.lower (e : EnumType) : Except ReservedError Declaration := do
  let reserved ← Reserved.check maxEnumNumber e.name e.reservedRanges e.reservedNames
  return .enum { name := e.name, help := e.help, options := mergeOptions e.options }
    (e.addedConstants ++ e.constants.map EnumConstant.lower) reserved

/-- The declarations of several enums, up to the first fault. -/
def EnumType.lowerAll : List EnumType → Except ReservedError (List Declaration)
  | [] => .ok []
  | e :: rest => do
    let d ← e.lower
    let ds ← EnumType.lowerAll rest
    return d :: ds

/-- The declaration of a field. -/
def Field.lower (f : Field) : Declaration :=
  .field { name := f.name, help := f.help, options := mergeOptions f.options } f.number
    f.type.fullName f.label

/-- The declaration of a oneof. -/
def Oneof.lower (o : Oneof) : Declaration :=
  .oneof { name := o.name, help := o.help, options := mergeOptions o.options }
    (o.fields.map Field.lower)

mutual

/-- **The declaration of a message.** -/
def Message.lower : Message → Except ReservedError Declaration
  | ⟨name, help, enums, messages, oneofs, fields, options, reservedRanges, reservedNames⟩ => do
    let enums ← EnumType.lowerAll enums
    let messages ← Message.lowerAll messages
    let reserved ← Reserved.check maxFieldNumber name reservedRanges reservedNames
    return .message { name, help, options := mergeOptions options }
      (enums ++ messages ++ oneofs.map Oneof.lower ++ fields.map Field.lower) reserved

/-- The declarations of several messages, up to the first fault. -/
def Message.lowerAll : List Message → Except ReservedError (List Declaration)
  | [] => .ok []
  | m :: rest => do
    let d ← m.lower
    let ds ← Message.lowerAll rest
    return d :: ds

end

/-- The declaration of a method. -/
def Method.lower (m : Method) : Declaration :=
  .method { name := m.name, help := m.help, options := mergeOptions m.options } {
    input := m.input.fullName
    output := m.output.fullName
    clientStreaming := m.clientStreaming
    serverStreaming := m.serverStreaming }

/-- The declaration of a service. -/
def Service.lower (s : Service) : Declaration :=
  .service { name := s.name, help := s.help, options := mergeOptions s.options }
    (s.methods.map Method.lower)

/-- The declaration of a custom option: the extension that holds its field alone. -/
def CustomOption.lower (c : CustomOption) : Declaration :=
  .extension { name := c.target.extendee }
    [.field { name := c.name, help := c.help } c.number c.type.fullName c.label]

/-- **The file of a document.** -/
def File.lower (f : File) : Except ReservedError ProtoFile := do
  let enums ← EnumType.lowerAll f.enums
  let messages ← Message.lowerAll f.messages
  return {
    name := f.name
    package := f.package
    imports := f.imports
    options := mergeOptions f.options
    declarations :=
      f.customOptions.map CustomOption.lower ++ enums ++ messages ++ f.services.map Service.lower }

end Schema

end ProtoSchema
