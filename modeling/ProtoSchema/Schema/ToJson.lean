/-
Schema documents as JSON values.

Every field is written, in the order in which the record declares it, so that a document's
text does not depend on how it was read. Decoding ignores the order of members.
-/
import ProtoSchema.Schema.Basic
import ProtoSchema.Json.Printer

set_option autoImplicit false

namespace ProtoSchema

namespace Schema

def TypeRef.toJson (t : TypeRef) : Json :=
  .object [("name", .string t.name), ("filename", .string t.filename), ("package", .string t.package)]

def OptionSetting.toJson (o : OptionSetting) : Json :=
  .object [("type", o.extension.toJson), ("path", .string o.path), ("value", o.value.toJson)]

def ReservedRange.toJson (r : ReservedRange) : Json :=
  .object [("start", .int r.start), ("end", match r.stop with | some n => .int n | none => .null)]

/-- A list of options as a value. -/
def optionsToJson (os : List OptionSetting) : Json := .array (os.map OptionSetting.toJson)

def EnumConstant.toJson (c : EnumConstant) : Json :=
  .object [
    ("name", .string c.name), ("help", .string c.help), ("number", .int c.number),
    ("options", optionsToJson c.options)]

def EnumType.toJson (e : EnumType) : Json :=
  .object [
    ("name", .string e.name), ("help", .string e.help),
    ("values", .array (e.constants.map EnumConstant.toJson)),
    ("options", optionsToJson e.options),
    ("reserved_ranges", .array (e.reservedRanges.map ReservedRange.toJson)),
    ("reserved_names", .strings e.reservedNames)]

def Field.toJson (f : Field) : Json :=
  .object [
    ("name", .string f.name), ("help", .string f.help), ("number", .int f.number),
    ("type", f.type.toJson), ("label", .string f.label), ("options", optionsToJson f.options)]

def Oneof.toJson (o : Oneof) : Json :=
  .object [
    ("name", .string o.name), ("help", .string o.help),
    ("fields", .array (o.fields.map Field.toJson)), ("options", optionsToJson o.options)]

mutual

def Message.toJson : Message → Json
  | ⟨name, help, enums, messages, oneofs, fields, options, reservedRanges, reservedNames⟩ =>
    .object [
      ("name", .string name), ("help", .string help),
      ("enums", .array (enums.map EnumType.toJson)),
      ("messages", .array (Message.listToJson messages)),
      ("oneofs", .array (oneofs.map Oneof.toJson)),
      ("fields", .array (fields.map Field.toJson)),
      ("options", optionsToJson options),
      ("reserved_ranges", .array (reservedRanges.map ReservedRange.toJson)),
      ("reserved_names", .strings reservedNames)]

/-- The values of several messages. -/
def Message.listToJson : List Message → List Json
  | [] => []
  | m :: rest => m.toJson :: Message.listToJson rest

end

def Method.toJson (m : Method) : Json :=
  .object [
    ("name", .string m.name), ("help", .string m.help), ("input_type", m.input.toJson),
    ("output_type", m.output.toJson), ("client_streaming", .bool m.clientStreaming),
    ("server_streaming", .bool m.serverStreaming), ("options", optionsToJson m.options)]

def Service.toJson (s : Service) : Json :=
  .object [
    ("name", .string s.name), ("help", .string s.help),
    ("methods", .array (s.methods.map Method.toJson)), ("options", optionsToJson s.options)]

def CustomOption.toJson (c : CustomOption) : Json :=
  .object [
    ("name", .string c.name), ("help", .string c.help), ("number", .int c.number),
    ("type", c.type.toJson), ("option_type", .string c.target.name), ("label", .string c.label)]

/-- **The JSON value of a document.** -/
def File.toJson (f : File) : Json :=
  .object [
    ("name", .string f.name), ("package", .string f.package),
    ("enums", .array (f.enums.map EnumType.toJson)),
    ("messages", .array (Message.listToJson f.messages)),
    ("services", .array (f.services.map Service.toJson)),
    ("custom_options", .array (f.customOptions.map CustomOption.toJson)),
    ("options", optionsToJson f.options)]

/-- The text of a document on one line. -/
def File.toText (f : File) : String := f.toJson.compact

/-- The text of a document as it is saved: indented, with a line break at its end. -/
def File.toSavedText (f : File) : String := f.toJson.indented ++ "\n"

end Schema

end ProtoSchema
