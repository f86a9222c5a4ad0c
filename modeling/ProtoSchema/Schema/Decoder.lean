/-
How schema documents are laid out, said once for every way of reading them.

A document can be decoded from a JSON value or read straight from its text. The two differ
in what they do with a fault, not in which fields a record has; so the records are described
over a `Format`, a kit of decoders for scalars, lists and records, and each way of reading
supplies its kit.

Every field may be missing or null, and then keeps its zero value. The target of a custom
option is the one field that a document has to give.
-/
import ProtoSchema.Schema.Basic

set_option autoImplicit false

namespace ProtoSchema

namespace Schema

/-- **A field of a record `ρ`**: decoding it gives the change it makes to the record. -/
structure FieldDecoder (D : Type → Type) (ρ : Type) where
  name : String
  required : Bool
  update : D (ρ → ρ)

/-- **A record**: its name in messages, the record before any field is known, and the fields
in the order in which an array lists them. -/
structure RecordDecoder (D : Type → Type) (ρ : Type) where
  name : String
  blank : ρ
  fields : List (FieldDecoder D ρ)

namespace RecordDecoder

variable {D : Type → Type} {ρ : Type}

/-- The field of a name. -/
def field? (r : RecordDecoder D ρ) (name : String) : Option (FieldDecoder D ρ) :=
  r.fields.find? fun f => f.name == name

/-- The first required field that is not among the names. -/
def missing? (r : RecordDecoder D ρ) (present : List String) : Option (FieldDecoder D ρ) :=
  r.fields.find? fun f => f.required && !present.contains f.name

end RecordDecoder

/-- **A kit of decoders.** `D α` decodes an `α`. -/
structure Format (D : Type → Type) where
  map : {α β : Type} → (α → β) → D α → D β
  string : D String
  bool : D Bool
  /-- A signed integer of 64 bits. -/
  int : D Int
  optionValue : D OptionValue
  /-- One of several names. -/
  variant : {α : Type} → List (String × α) → D α
  list : {α : Type} → D α → D (List α)
  /-- The given result for null, and what the decoder says otherwise. -/
  orNull : {α : Type} → α → D α → D α
  record : {ρ : Type} → RecordDecoder D ρ → D ρ
  /-- Gives up on a document that nests too deep. -/
  tooDeep : {α : Type} → D α

namespace Format

variable {D : Type → Type} {α ρ : Type}

/-- A field that null leaves as it is. -/
def field (F : Format D) (name : String) (value : D α) (set : α → ρ → ρ) : FieldDecoder D ρ :=
  ⟨name, false, F.orNull id (F.map set value)⟩

/-- A field whose decoder is asked also for null. -/
def plainField (F : Format D) (name : String) (value : D α) (set : α → ρ → ρ) :
    FieldDecoder D ρ :=
  ⟨name, false, F.map set value⟩

/-- A field that has to be given. -/
def requiredField (F : Format D) (name : String) (value : D α) (set : α → ρ → ρ) :
    FieldDecoder D ρ :=
  ⟨name, true, F.map set value⟩

/-! ## The records -/

def typeRef (F : Format D) : D TypeRef :=
  F.record {
    name := "TypeRef"
    blank := {}
    fields := [
      F.field "name" F.string fun s r => { r with name := s },
      F.field "filename" F.string fun s r => { r with filename := s },
      F.field "package" F.string fun s r => { r with package := s }] }

def optionSetting (F : Format D) : D OptionSetting :=
  F.record {
    name := "OptionDef"
    blank := {}
    fields := [
      F.field "type" F.typeRef fun t r => { r with extension := t },
      F.field "path" F.string fun s r => { r with path := s },
      F.plainField "value" F.optionValue fun v r => { r with value := v }] }

def reservedRange (F : Format D) : D ReservedRange :=
  F.record {
    name := "ReservedRangeDef"
    blank := {}
    fields := [
      F.field "start" F.int fun n r => { r with start := n },
      F.field "end" F.int fun n r => { r with stop := some n }] }

def enumConstant (F : Format D) : D EnumConstant :=
  F.record {
    name := "EnumValueDef"
    blank := {}
    fields := [
      F.field "name" F.string fun s r => { r with name := s },
      F.field "help" F.string fun s r => { r with help := s },
      F.field "number" F.int fun n r => { r with number := n },
      F.field "options" (F.list F.optionSetting) fun os r => { r with options := os }] }

def enumType (F : Format D) : D EnumType :=
  F.record {
    name := "EnumDef"
    blank := {}
    fields := [
      F.field "name" F.string fun s r => { r with name := s },
      F.field "help" F.string fun s r => { r with help := s },
      F.field "values" (F.list F.enumConstant) fun vs r => { r with constants := vs },
      F.field "options" (F.list F.optionSetting) fun os r => { r with options := os },
      F.field "reserved_ranges" (F.list F.reservedRange) fun rs r => { r with reservedRanges := rs },
      F.field "reserved_names" (F.list F.string) fun ns r => { r with reservedNames := ns }] }

def fieldType (F : Format D) : D Field :=
  F.record {
    name := "FieldDef"
    blank := {}
    fields := [
      F.field "name" F.string fun s r => { r with name := s },
      F.field "help" F.string fun s r => { r with help := s },
      F.field "number" F.int fun n r => { r with number := n },
      F.field "type" F.typeRef fun t r => { r with type := t },
      F.field "label" F.string fun s r => { r with label := s },
      F.field "options" (F.list F.optionSetting) fun os r => { r with options := os }] }

def oneof (F : Format D) : D Oneof :=
  F.record {
    name := "OneofDef"
    blank := {}
    fields := [
      F.field "name" F.string fun s r => { r with name := s },
      F.field "help" F.string fun s r => { r with help := s },
      F.field "fields" (F.list F.fieldType) fun fs r => { r with fields := fs },
      F.field "options" (F.list F.optionSetting) fun os r => { r with options := os }] }

/-- Messages nested at most `depth` deep, the outermost included. -/
def message (F : Format D) : Nat → D Message
  | 0 => F.tooDeep
  | depth + 1 =>
    F.record {
      name := "MessageDef"
      blank := {}
      fields := [
        F.field "name" F.string fun s r => { r with name := s },
        F.field "help" F.string fun s r => { r with help := s },
        F.field "enums" (F.list F.enumType) fun es r => { r with enums := es },
        F.field "messages" (F.list (F.message depth)) fun ms r => { r with messages := ms },
        F.field "oneofs" (F.list F.oneof) fun os r => { r with oneofs := os },
        F.field "fields" (F.list F.fieldType) fun fs r => { r with fields := fs },
        F.field "options" (F.list F.optionSetting) fun os r => { r with options := os },
        F.field "reserved_ranges" (F.list F.reservedRange) fun rs r =>
          { r with reservedRanges := rs },
        F.field "reserved_names" (F.list F.string) fun ns r => { r with reservedNames := ns }] }

def method (F : Format D) : D Method :=
  F.record {
    name := "MethodDef"
    blank := {}
    fields := [
      F.field "name" F.string fun s r => { r with name := s },
      F.field "help" F.string fun s r => { r with help := s },
      F.field "input_type" F.typeRef fun t r => { r with input := t },
      F.field "output_type" F.typeRef fun t r => { r with output := t },
      F.field "client_streaming" F.bool fun b r => { r with clientStreaming := b },
      F.field "server_streaming" F.bool fun b r => { r with serverStreaming := b },
      F.field "options" (F.list F.optionSetting) fun os r => { r with options := os }] }

def service (F : Format D) : D Service :=
  F.record {
    name := "ServiceDef"
    blank := {}
    fields := [
      F.field "name" F.string fun s r => { r with name := s },
      F.field "help" F.string fun s r => { r with help := s },
      F.field "methods" (F.list F.method) fun ms r => { r with methods := ms },
      F.field "options" (F.list F.optionSetting) fun os r => { r with options := os }] }

def customOption (F : Format D) : D CustomOption :=
  F.record {
    name := "CustomOptionDef"
    blank := {}
    fields := [
      F.field "name" F.string fun s r => { r with name := s },
      F.field "help" F.string fun s r => { r with help := s },
      F.field "number" F.int fun n r => { r with number := n },
      F.field "type" F.typeRef fun t r => { r with type := t },
      F.requiredField "option_type" (F.variant OptionTarget.names) fun t r => { r with target := t },
      F.field "label" F.string fun s r => { r with label := s }] }

/-- Files whose messages nest at most `depth` deep. -/
def file (F : Format D) (depth : Nat) : D File :=
  F.record {
    name := "FileDef"
    blank := {}
    fields := [
      F.field "name" F.string fun s r => { r with name := s },
      F.field "package" F.string fun s r => { r with package := s },
      F.field "enums" (F.list F.enumType) fun es r => { r with enums := es },
      F.field "messages" (F.list (F.message depth)) fun ms r => { r with messages := ms },
      F.field "services" (F.list F.service) fun ss r => { r with services := ss },
      F.field "custom_options" (F.list F.customOption) fun cs r => { r with customOptions := cs },
      F.field "options" (F.list F.optionSetting) fun os r => { r with options := os }] }

end Format

end Schema

end ProtoSchema
