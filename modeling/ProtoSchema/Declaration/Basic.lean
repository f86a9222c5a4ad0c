/-
Declarations ready to be written.

A generated file is a list of declarations. Some open a block with further declarations,
others are a single statement. Options are merged, names are full and what is reserved is in
canonical form, so that writing a declaration takes no decision about its meaning.
-/
import ProtoSchema.Option.Merge
import ProtoSchema.Reserved

set_option autoImplicit false

namespace ProtoSchema

/-- What all declarations have. -/
structure Heading where
  name : String := ""
  help : String := ""
  options : List OptionAssignment := []
deriving Repr, Inhabited

/-- The types of a method. -/
structure MethodTypes where
  input : String := ""
  output : String := ""
  clientStreaming : Bool := false
  serverStreaming : Bool := false
deriving DecidableEq, Repr, Inhabited

/-- **A declaration.** -/
inductive Declaration where
  | message (head : Heading) (children : List Declaration) (reserved : Reserved)
  | enum (head : Heading) (children : List Declaration) (reserved : Reserved)
  | extension (head : Heading) (children : List Declaration)
  | oneof (head : Heading) (children : List Declaration)
  | service (head : Heading) (children : List Declaration)
  | field (head : Heading) (number : Int) (type label : String)
  | enumConstant (head : Heading) (number : Int)
  | method (head : Heading) (types : MethodTypes)
deriving Repr, Inhabited

namespace Declaration

/-- The heading of a declaration. -/
def head : Declaration → Heading
  | .message head _ _ | .enum head _ _ | .extension head _ | .oneof head _ | .service head _
  | .field head _ _ _ | .enumConstant head _ | .method head _ => head

/-- The word that opens the block of a declaration. -/
def keyword? : Declaration → Option String
  | .message _ _ _ => some "message"
  | .enum _ _ _ => some "enum"
  | .extension _ _ => some "extend"
  | .oneof _ _ => some "oneof"
  | .service _ _ => some "service"
  | .field _ _ _ _ | .enumConstant _ _ | .method _ _ => none

/-- The declarations in the block of a declaration. -/
def children : Declaration → List Declaration
  | .message _ children _ | .enum _ children _ | .extension _ children | .oneof _ children
  | .service _ children => children
  | .field _ _ _ _ | .enumConstant _ _ | .method _ _ => []

/-- What a declaration reserves; only messages and enums can. -/
def reserved? : Declaration → Option Reserved
  | .message _ _ reserved | .enum _ _ reserved => some reserved
  | _ => none

end Declaration

/-- The language level of generated files. -/
def languageLevel : String := "proto3"

/-- **A file ready to be written.** -/
structure ProtoFile where
  name : String := ""
  package : String := ""
  level : String := languageLevel
  imports : List String := []
  options : List OptionAssignment := []
  declarations : List Declaration := []
deriving Repr, Inhabited

end ProtoSchema
