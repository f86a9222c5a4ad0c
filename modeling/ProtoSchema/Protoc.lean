/-
Invocations of the protocol compiler.

The compiler gets the arguments that the user passed through, and the generated files after
them. It is run only if an argument asks for an output.
-/

set_option autoImplicit false

namespace ProtoSchema

/-- Whether a text occurs in another. -/
def occursIn (part : List Char) : List Char → Bool
  | [] => part.isEmpty
  | c :: rest => part.isPrefixOf (c :: rest) || occursIn part rest

/-- **An invocation of the protocol compiler.** -/
structure Protoc where
  tool : String
  arguments : List String
deriving DecidableEq, Repr

namespace Protoc

/-- The mark of an argument that asks for an output, as in `--go_out=gen`. -/
def outputMark : String := "_out="

/-- Whether an argument asks for an output. -/
def isRequested (p : Protoc) : Bool :=
  p.arguments.any fun a => occursIn outputMark.toList a.toList

/-- The invocation with one file more, unless it is an argument already. -/
def addFile (p : Protoc) (name : String) : Protoc :=
  if p.arguments.contains name then p else { p with arguments := p.arguments ++ [name] }

/-- **The invocation with generated files added** that are not arguments already. -/
def addFiles (p : Protoc) (names : List String) : Protoc := names.foldl addFile p

end Protoc

end ProtoSchema
