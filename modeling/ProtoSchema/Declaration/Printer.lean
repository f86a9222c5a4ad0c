/-
Writing declarations and files.

A declaration is written below its doc comment. A block holds its options, its declarations
and what it reserves, in this order, with empty lines between the groups. A file starts with
a banner and a header, then come its imports and its declarations, and it ends with a line
break.
-/
import ProtoSchema.Declaration.Basic
import ProtoSchema.DocComment
import ProtoSchema.Option.Printer

set_option autoImplicit false

namespace ProtoSchema

open Layout (Body Line)

/-- The statement that reserves a range. -/
def Schema.ReservedRange.statement (r : Schema.ReservedRange) : String :=
  match r.stop with
  | none => "reserved " ++ Json.intText r.start ++ " to max;"
  | some stop =>
    if stop = r.start then "reserved " ++ Json.intText r.start ++ ";"
    else "reserved " ++ Json.intText r.start ++ " to " ++ Json.intText stop ++ ";"

/-- The lines of what is reserved, set off by an empty line. -/
def Reserved.lines (r : Reserved) : Body :=
  if r.isEmpty then []
  else
    .plain "" :: (r.ranges.map fun range => Line.plain range.statement) ++
      r.names.map fun name => Line.plain ("reserved " ++ Literal.ofString name ++ ";")

/-- The lines of a block's options, set off by an empty line. -/
def Heading.optionLines (head : Heading) : Except PrintError Body :=
  if head.options.isEmpty then .ok []
  else (· ++ [.plain ""]) <$> OptionAssignment.longLines head.options

/-- A statement with its options in the short form. -/
def Heading.statementLine (head : Heading) (statement : String) : Except PrintError Line :=
  if head.options.isEmpty then .ok (.plain (statement ++ ";"))
  else (.block (statement ++ " [") · "];") <$> OptionAssignment.shortLines head.options

/-- The type of a method's argument or result. -/
def streamed (type : String) (streaming : Bool) : String :=
  if streaming then "stream " ++ type else type

/-- A method with its options in the long form. -/
def Heading.methodLine (head : Heading) (types : MethodTypes) : Except PrintError Line :=
  let statement :=
    "rpc " ++ head.name ++ "(" ++ streamed types.input types.clientStreaming ++ ") returns (" ++
      streamed types.output types.serverStreaming ++ ")"
  if head.options.isEmpty then .ok (.plain (statement ++ ";"))
  else (.block (statement ++ " \x7b") · "\x7d;") <$> OptionAssignment.longLines head.options

namespace Declaration

/-- A block of a declaration. -/
def blockLine (keyword : String) (head : Heading) (lines : Body) : Line :=
  .block (keyword ++ " " ++ head.name ++ " \x7b") lines "\x7d"

mutual

/-- **The lines of a declaration.** `separate` sets a doc comment off by an empty line. -/
def lines (separate : Bool) : Declaration → Except PrintError Body
  | .message head children reserved => do
    let options ← head.optionLines
    let inner ← childLines true children
    return DocComment.lines head.help separate ++
      [blockLine "message" head (options ++ inner ++ reserved.lines)]
  | .enum head children reserved => do
    let options ← head.optionLines
    let inner ← childLines true children
    return DocComment.lines head.help separate ++
      [blockLine "enum" head (options ++ inner ++ reserved.lines)]
  | .extension head children => do
    let options ← head.optionLines
    let inner ← childLines true children
    return DocComment.lines head.help separate ++ [blockLine "extend" head (options ++ inner)]
  | .oneof head children => do
    let options ← head.optionLines
    let inner ← childLines true children
    return DocComment.lines head.help separate ++ [blockLine "oneof" head (options ++ inner)]
  | .service head children => do
    let options ← head.optionLines
    let inner ← childLines true children
    return DocComment.lines head.help separate ++ [blockLine "service" head (options ++ inner)]
  | .field head number type label => do
    let label := if label.isEmpty then "" else label ++ " "
    let line ← head.statementLine
      (label ++ type ++ " " ++ head.name ++ " = " ++ Json.intText number)
    return DocComment.lines head.help separate ++ [line]
  | .enumConstant head number => do
    let line ← head.statementLine (head.name ++ " = " ++ Json.intText number)
    return DocComment.lines head.help separate ++ [line]
  | .method head types => do
    let line ← head.methodLine types
    return DocComment.lines head.help separate ++ [line]

/-- The lines of a block's declarations; all but the first are set off. -/
def childLines (first : Bool) : List Declaration → Except PrintError Body
  | [] => .ok []
  | d :: rest => do
    let own ← d.lines !first
    let others ← childLines false rest
    return own ++ others

end

/-- The lines of a file's declarations, with empty lines between them. -/
def topLines (first : Bool) : List Declaration → Except PrintError Body
  | [] => .ok []
  | d :: rest => do
    let own ← d.lines false
    let others ← topLines false rest
    return (if first then [] else [.plain ""]) ++ own ++ others

end Declaration

namespace ProtoFile

/-- The first line of every generated file. -/
def banner : String := "// Generated by protoweavec. DO NOT EDIT!"

/-- The header: banner, language level and package, each followed by an empty line. -/
def headerLines (f : ProtoFile) : Body :=
  [.plain banner, .plain "", .plain ("syntax = " ++ Literal.ofString f.level ++ ";\n")] ++
    (if f.package.isEmpty then [] else [.plain ("package " ++ f.package ++ ";\n")])

/-- The imports, followed by an empty line. -/
def importLines (f : ProtoFile) : Body :=
  if f.imports.isEmpty then []
  else (f.imports.map fun i => Line.plain ("import " ++ Literal.ofString i ++ ";")) ++ [.plain ""]

/-- **The lines of a file.** -/
def lines (f : ProtoFile) : Except PrintError Body := do
  let options ← Heading.optionLines { options := f.options }
  let declarations ← Declaration.topLines true f.declarations
  return f.headerLines ++ options ++ f.importLines ++ declarations ++ [.plain ""]

/-- **The text of a file.** -/
def render (f : ProtoFile) : Except PrintError String := Layout.render <$> f.lines

end ProtoFile

end ProtoSchema
