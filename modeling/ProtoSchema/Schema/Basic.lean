/-
Schema documents.

A document describes one generated file: its enums, messages, services, the custom options
it declares and the options it sets. Every part has a zero value, which a document may leave
out.
-/
import ProtoSchema.OptionValue

set_option autoImplicit false

namespace ProtoSchema

namespace Schema

/-- The greatest field number. -/
def maxFieldNumber : Int := 536870911

/-- The greatest number of an enum constant. -/
def maxEnumNumber : Int := 2147483647

/-- The file that declares what custom options extend. -/
def descriptorFile : String := "google/protobuf/descriptor.proto"

/-- **A reference to a type**: a scalar, a type of the same file, or one of another file. -/
structure TypeRef where
  name : String := ""
  /-- The file that declares the type; empty for a type that needs no import. -/
  filename : String := ""
  package : String := ""
deriving DecidableEq, Repr, Inhabited

namespace TypeRef

/-- A type that needs no import. -/
def here (name : String) : TypeRef := { name }

/-- The name qualified by the package, if there is one. -/
def fullName (t : TypeRef) : String :=
  if t.package.isEmpty then t.name else t.package ++ "." ++ t.name

end TypeRef

/-- **An option that a declaration sets.** -/
structure OptionSetting where
  extension : TypeRef := {}
  /-- Names separated by dots, leading to the part of the option that is set. -/
  path : String := ""
  value : OptionValue := .null
deriving Repr, Inhabited

/-- **A range of reserved numbers**, both ends included; without an end it is open. -/
structure ReservedRange where
  start : Int := 0
  stop : Option Int := none
deriving DecidableEq, Repr, Inhabited

/-- **An enum constant.** -/
structure EnumConstant where
  name : String := ""
  help : String := ""
  number : Int := 0
  options : List OptionSetting := []
deriving Repr, Inhabited

/-- **An enum.** -/
structure EnumType where
  name : String := ""
  help : String := ""
  constants : List EnumConstant := []
  options : List OptionSetting := []
  reservedRanges : List ReservedRange := []
  reservedNames : List String := []
deriving Repr, Inhabited

/-- **A field** of a message or of a oneof. -/
structure Field where
  name : String := ""
  help : String := ""
  number : Int := 0
  type : TypeRef := {}
  /-- A word such as `repeated`; empty for a plain field. -/
  label : String := ""
  options : List OptionSetting := []
deriving Repr, Inhabited

/-- **A oneof**: fields of which at most one is set. -/
structure Oneof where
  name : String := ""
  help : String := ""
  fields : List Field := []
  options : List OptionSetting := []
deriving Repr, Inhabited

/-- **A message.** -/
structure Message where
  name : String := ""
  help : String := ""
  enums : List EnumType := []
  messages : List Message := []
  oneofs : List Oneof := []
  fields : List Field := []
  options : List OptionSetting := []
  reservedRanges : List ReservedRange := []
  reservedNames : List String := []
deriving Repr, Inhabited

/-- **A method** of a service. -/
structure Method where
  name : String := ""
  help : String := ""
  input : TypeRef := {}
  output : TypeRef := {}
  clientStreaming : Bool := false
  serverStreaming : Bool := false
  options : List OptionSetting := []
deriving Repr, Inhabited

/-- **A service.** -/
structure Service where
  name : String := ""
  help : String := ""
  methods : List Method := []
  options : List OptionSetting := []
deriving Repr, Inhabited

/-- **What a custom option can be set on.** -/
inductive OptionTarget where
  | file
  | message
  | field
  | oneof
  | enum
  | enumConstant
  | service
  | method
deriving DecidableEq, Repr, Inhabited

namespace OptionTarget

/-- The targets with their names in documents. -/
def names : List (String × OptionTarget) := [
  ("file_option", .file), ("message_option", .message), ("field_option", .field),
  ("oneof_option", .oneof), ("enum_option", .enum), ("enum_value_option", .enumConstant),
  ("service_option", .service), ("method_option", .method)]

/-- The name of a target in documents. -/
def name : OptionTarget → String
  | .file => "file_option"
  | .message => "message_option"
  | .field => "field_option"
  | .oneof => "oneof_option"
  | .enum => "enum_option"
  | .enumConstant => "enum_value_option"
  | .service => "service_option"
  | .method => "method_option"

/-- The message that a custom option for the target extends. -/
def extendee : OptionTarget → String
  | .file => "google.protobuf.FileOptions"
  | .message => "google.protobuf.MessageOptions"
  | .field => "google.protobuf.FieldOptions"
  | .oneof => "google.protobuf.OneofOptions"
  | .enum => "google.protobuf.EnumOptions"
  | .enumConstant => "google.protobuf.EnumValueOptions"
  | .service => "google.protobuf.ServiceOptions"
  | .method => "google.protobuf.MethodOptions"

end OptionTarget

/-- **The declaration of a custom option.** -/
structure CustomOption where
  name : String := ""
  help : String := ""
  number : Int := 0
  type : TypeRef := {}
  target : OptionTarget := .file
  label : String := ""
deriving DecidableEq, Repr, Inhabited

/-- **A schema document**: one file to generate. -/
structure File where
  name : String := ""
  package : String := ""
  enums : List EnumType := []
  messages : List Message := []
  services : List Service := []
  customOptions : List CustomOption := []
  options : List OptionSetting := []
deriving Repr, Inhabited

end Schema

end ProtoSchema
