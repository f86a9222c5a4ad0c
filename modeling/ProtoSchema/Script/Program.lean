/-
The standard programs that scripts call.

Each program is a function of its arguments, its input and a file tree. What it writes is
bytes, since an escape in a format may name a byte that no text contains.
-/
import ProtoSchema.FileTree
import ProtoSchema.Script.Word

set_option autoImplicit false

namespace ProtoSchema

namespace Script

/-- **What running a program leaves behind.** -/
structure Outcome where
  tree : FileTree
  output : List UInt8 := []
  errors : List UInt8 := []
  status : Nat := 0
deriving DecidableEq, Repr, Inhabited

/-! ## Escapes -/

/-- An octal digit. -/
def isOctal (c : Char) : Bool := '0' ≤ c && c ≤ '7'

/-- The byte that octal digits write. -/
def octalByte (digits : List Char) : UInt8 :=
  UInt8.ofNat (digits.foldl (fun n d => 8 * n + (d.toNat - 48)) 0)

/-- Up to three octal digits in front, and what follows them. -/
def octalDigits (cs : List Char) : List Char × List Char :=
  let digits := (cs.take 3).takeWhile isOctal
  (digits, cs.drop digits.length)

/-- The byte of an escape with one letter. -/
def letterEscape? (c : Char) : Option UInt8 :=
  if c = '\\' then some 92
  else if c = 'a' then some 7
  else if c = 'b' then some 8
  else if c = 'f' then some 12
  else if c = 'n' then some 10
  else if c = 'r' then some 13
  else if c = 't' then some 9
  else if c = 'v' then some 11
  else none

/-- The bytes of a text with escapes, and whether an escape asked for the end of all output. A
backslash that starts no escape stands for itself. -/
def unescape : Nat → List Char → List UInt8 × Bool
  | 0, _ => ([], false)
  | _, [] => ([], false)
  | fuel + 1, c :: rest =>
    let continued (bs : List UInt8) (after : List Char) : List UInt8 × Bool :=
      let (more, stop) := unescape fuel after
      (bs ++ more, stop)
    if c ≠ '\\' then continued (Utf8.encode c) rest
    else
      match rest with
      | [] => ([92], false)
      | d :: after =>
        if d = 'c' then ([], true)
        else if isOctal d then
          -- A zero only announces the digits, if more of them follow.
          let announced := d = '0' && (after.head?.map isOctal).getD false
          let (ds, left) := octalDigits (if announced then after else rest)
          continued [octalByte ds] left
        else
          match letterEscape? d with
          | some b => continued [b] after
          | none => continued [92] rest

/-- The bytes of a text with escapes. -/
def unescaped (s : String) : List UInt8 × Bool := unescape (s.length + 1) s.toList

/-- What the shell's own `echo` writes: its arguments with escapes read, divided by blanks. -/
def echoBytes (arguments : List String) : List UInt8 :=
  let (words, newline) := match arguments with
    | "-n" :: rest => (rest, false)
    | words => (words, true)
  let (bs, stop) := unescaped (String.intercalate " " words)
  if newline && !stop then bs ++ [10] else bs

/-! ## Formats -/

/-- A field of a format: flags, width and precision. -/
structure Field where
  left : Bool := false
  zero : Bool := false
  width : Nat := 0
  precision : Option Nat := none

/-- The number that digits write. -/
def decimal (digits : List Char) : Nat := digits.foldl (fun n d => 10 * n + (d.toNat - 48)) 0

/-- The field after a percent sign, and what follows it. -/
def field (cs : List Char) : Field × List Char :=
  let isFlag (c : Char) : Bool := "-0 +#".toList.contains c
  let flags := cs.takeWhile isFlag
  let cs := cs.dropWhile isFlag
  let width := cs.takeWhile Char.isDigit
  let cs := cs.dropWhile Char.isDigit
  let f : Field := {
    left := flags.contains '-', zero := flags.contains '0', width := decimal width }
  match cs with
  | '.' :: rest =>
    ({ f with precision := some (decimal (rest.takeWhile Char.isDigit)) },
      rest.dropWhile Char.isDigit)
  | cs => (f, cs)

/-- Bytes filled up to the width of a field. -/
def Field.pad (f : Field) (bs : List UInt8) : List UInt8 :=
  let missing := f.width - bs.length
  if f.left then bs ++ List.replicate missing 32 else List.replicate missing 32 ++ bs

/-- The whole number that an argument writes; anything else counts as zero. -/
def wholeNumber (s : String) : Int :=
  match s.toList with
  | '-' :: digits => if digits.all Char.isDigit then -(decimal digits : Int) else 0
  | '+' :: digits => if digits.all Char.isDigit then decimal digits else 0
  | digits => if digits.all Char.isDigit then decimal digits else 0

/-- The bytes of one conversion of an argument. -/
def convert (f : Field) (conversion : Char) (argument : String) : List UInt8 × Bool :=
  let limited (bs : List UInt8) : List UInt8 :=
    match f.precision with
    | some n => bs.take n
    | none => bs
  if conversion = 'b' then
    let (bs, stop) := unescaped argument
    (f.pad (limited bs), stop)
  else if conversion = 'c' then (f.pad (Utf8.bytes (String.ofList (argument.toList.take 1))), false)
  else if conversion = 's' then (f.pad (limited (Utf8.bytes argument)), false)
  else
    let n := wholeNumber argument
    let base := if conversion = 'x' || conversion = 'X' then 16 else if conversion = 'o' then 8 else 10
    let digits := Nat.toDigits base n.natAbs
    let digits := if conversion = 'X' then digits.map Char.toUpper else digits
    let signed := (if n < 0 then ['-'] else []) ++ digits
    let filled :=
      if f.zero && !f.left then List.replicate (f.width - signed.length) '0' ++ signed else signed
    (f.pad (Utf8.bytes (String.ofList filled)), false)

/-- One pass over a format: the bytes, the arguments that are left, and whether to stop. -/
def formatOnce : Nat → List Char → List String → List UInt8 × List String × Bool
  | 0, _, arguments => ([], arguments, false)
  | _, [], arguments => ([], arguments, false)
  | fuel + 1, c :: rest, arguments =>
    let continued (bs : List UInt8) (after : List Char) (arguments : List String) :=
      let (more, left, stop) := formatOnce fuel after arguments
      (bs ++ more, left, stop)
    if c = '%' then
      match rest with
      | '%' :: after => continued [37] after arguments
      | rest =>
        let (f, after) := field rest
        match after with
        | [] => ([37], arguments, true)
        | conversion :: after =>
          let (bs, stop) := convert f conversion (arguments.headD "")
          if stop then (bs, arguments.drop 1, true) else continued bs after (arguments.drop 1)
    else if c = '\\' then
      match rest with
      | [] => ([92], arguments, false)
      | d :: after =>
        if isOctal d then
          let (ds, left) := octalDigits rest
          continued [octalByte ds] left arguments
        else
          match letterEscape? d with
          | some b => continued [b] after arguments
          | none => continued [92] rest arguments
    else continued (Utf8.encode c) rest arguments

/-- Passes over a format until no argument is left. -/
def formatAll (format : List Char) : Nat → List String → List UInt8
  | 0, _ => []
  | fuel + 1, arguments =>
    let (bs, left, stop) := formatOnce (format.length + 1) format arguments
    if stop || left.isEmpty || left.length == arguments.length then bs
    else bs ++ formatAll format fuel left

/-- What `printf` writes. -/
def printfBytes : List String → List UInt8
  | [] => []
  | format :: arguments => formatAll format.toList (arguments.length + 1) arguments

/-! ## Conditions -/

/-- A condition with one operand. -/
def unaryTest (t : FileTree) (operator operand : String) : Option Bool :=
  match operator with
  | "-n" => some !operand.isEmpty
  | "-z" => some operand.isEmpty
  | "-f" => some (t.isFile operand)
  | "-d" => some (t.isDirectory operand)
  | "-e" => some (t.isFile operand || t.isDirectory operand)
  | "-r" => some (t.isFile operand || t.isDirectory operand)
  | "-w" => some (t.isFile operand || t.isDirectory operand)
  | "-x" => some (t.isExecutable operand || t.isDirectory operand)
  | "-s" =>
    some (match t.readBytes operand with
      | .ok bs => !bs.isEmpty
      | .error _ => t.isDirectory operand)
  | _ => none

/-- A condition with two operands. -/
def binaryTest (left operator right : String) : Option Bool :=
  let a := wholeNumber left
  let b := wholeNumber right
  match operator with
  | "=" | "==" => some (left == right)
  | "!=" => some (left != right)
  | "-eq" => some (a == b)
  | "-ne" => some (a != b)
  | "-lt" => some (a < b)
  | "-le" => some (a ≤ b)
  | "-gt" => some (a > b)
  | "-ge" => some (a ≥ b)
  | _ => none

/-- Whether a condition of `test` holds; `none` if it is none. -/
def testHolds (t : FileTree) : List String → Option Bool
  | [] => some false
  | [a] => some !a.isEmpty
  | ["!", a] => some a.isEmpty
  | [op, a] => unaryTest t op a
  | [a, op, b] =>
    match binaryTest a op b with
    | some r => some r
    | none => if a == "!" then (unaryTest t op b).map not else none
  | ["!", a, op, b] => (binaryTest a op b).map not
  | _ => none

/-- The status that says whether a condition holds. -/
def testStatus (t : FileTree) (arguments : List String) : Nat :=
  match testHolds t arguments with
  | some true => 0
  | some false => 1
  | none => 2

/-! ## Files -/

/-- The wording of a fault. -/
def faultText : FileTree.Fault → String
  | .missing => "No such file or directory"
  | .notDirectory => "Not a directory"
  | .isDirectory => "Is a directory"
  | .occupied => "File exists"
  | .badName => "File name too long"
  | .notText => "Input/output error"

/-- A name as messages show it: in quotes if it has an unusual character. -/
def shownName (name : String) : String :=
  let isUsual (c : Char) : Bool := c.isAlphanum || "%+,-./=@_^".toList.contains c
  if name.toList.all isUsual && !name.isEmpty then name
  else if name.toList.contains '\'' then "\"" ++ name ++ "\""
  else "'" ++ name ++ "'"

/-- The line of a complaint about a file. -/
def complaint (program name : String) (fault : FileTree.Fault) : List UInt8 :=
  Utf8.bytes (program ++ ": " ++ shownName name ++ ": " ++ faultText fault ++ "\n")

/-- The outcome with the bytes of one more file, or a complaint. -/
def catFile (program : String) (input : List UInt8) (o : Outcome) (name : String) : Outcome :=
  if name == "-" then { o with output := o.output ++ input }
  else
    match o.tree.readBytes name with
    | .ok bs => { o with output := o.output ++ bs }
    | .error fault => { o with errors := o.errors ++ complaint program name fault, status := 1 }

/-- Applies a change to a tree for each name, with a complaint for each that fails. -/
def changeFiles (program : String) (t : FileTree) (names : List String)
    (change : FileTree → String → Except FileTree.Fault FileTree) : Outcome :=
  names.foldl (fun o name =>
    match change o.tree name with
    | .ok tree => { o with tree }
    | .error fault => { o with errors := o.errors ++ complaint program name fault, status := 1 })
    { tree := t }

/-- Removes a file or, if asked, a directory with all that is in it. -/
def removeFile (recursive force : Bool) (t : FileTree) (name : String) :
    Except FileTree.Fault FileTree :=
  match t.resolve name with
  | .error fault => if force then .ok t else .error fault
  | .ok place =>
    match t.node? place with
    | none => if force then .ok t else .error .missing
    | some .directory => if recursive then .ok (t.remove place) else .error .isDirectory
    | some (.file _ _) => .ok (t.remove place)

/-- Copies a file. -/
def copyFile (t : FileTree) (source target : String) : Except FileTree.Fault FileTree := do
  let bs ← t.readBytes source
  let target :=
    if t.isDirectory target then Path.join target ((Path.fileName? source).getD "") else target
  t.writeBytes target bs

/-- Whether one of several letters is among the options. -/
def hasOption (options : List String) (letters : List Char) : Bool :=
  options.any fun o => o.toList.any letters.contains

/-- The names of the standard programs, the shell apart. -/
def programNames : List String :=
  ["true", "false", "sleep", "echo", "printf", "test", "[", "cat", "tee", "mkdir", "touch", "rm",
    "cp"]

/-- The outcome of a program that does not know an option. -/
def unknownOption (called option : String) (t : FileTree) : Outcome :=
  { tree := t
    errors := Utf8.bytes (called ++ ": unrecognized option '" ++ option ++ "'\nTry '" ++ called ++
      " --help' for more information.\n")
    status := 1 }

/-- **Runs a standard program**, given the name it was called by and its own name; `none` if
there is no such program. -/
def standard? (called name : String) (arguments : List String) (input : List UInt8)
    (t : FileTree) : Option Outcome :=
  let isOption (a : String) : Bool := a.toList.head? == some '-' && a != "-"
  let options := arguments.filter isOption
  let names := arguments.filter fun a => !isOption a
  match name with
  | "true" => some { tree := t }
  | "false" => some { tree := t, status := 1 }
  | "sleep" => some { tree := t }
  | "echo" =>
    let (words, ending) := match arguments with
      | "-n" :: rest => (rest, "")
      | words => (words, "\n")
    some { tree := t, output := Utf8.bytes (String.intercalate " " words ++ ending) }
  | "printf" => some { tree := t, output := printfBytes arguments }
  | "test" => some { tree := t, status := testStatus t arguments }
  | "[" => some { tree := t, status := testStatus t arguments.dropLast }
  | "cat" =>
    match options.find? fun o => o.toList.take 2 == ['-', '-'] with
    | some option => some (unknownOption called option t)
    | none =>
      some ((if names.isEmpty then ["-"] else names).foldl (catFile called input) { tree := t })
  | "tee" =>
    let write (t : FileTree) (name : String) :=
      if hasOption options ['a'] then t.appendBytes name input else t.writeBytes name input
    some { changeFiles called t names write with output := input }
  | "mkdir" =>
    some (changeFiles called t names fun t name =>
      if hasOption options ['p'] then t.makeDirectories name else t.makeDirectory name)
  | "touch" => some (changeFiles called t names fun t name => t.appendBytes name [])
  | "rm" =>
    some (changeFiles called t names
      (removeFile (hasOption options ['r', 'R']) (hasOption options ['f'])))
  | "cp" =>
    match names with
    | [source, target] =>
      some (changeFiles called t [source] fun t source => copyFile t source target)
    | _ => some { tree := t, status := 1 }
  | _ => none

end Script

end ProtoSchema
