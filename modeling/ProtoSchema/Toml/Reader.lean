/-
Reading TOML texts.

A text is a list of statements, one to a line. Strings are basic or literal, on one line or
over several; arrays and tables in braces may spread over lines too. A function of the
reader gives what it has read and the characters that follow. Every step takes a character or
closes a bracket, so that fuel of the size of the text suffices.
-/
import ProtoSchema.Toml.Scalar

set_option autoImplicit false

namespace ProtoSchema

namespace Toml

/-- How deep arrays and tables in braces may be nested, and how many parts a key may have. -/
def maxDepth : Nat := 80

/-! ## Blanks, line ends and comments -/

/-- A character that may stand between tokens of a line. -/
def isSpace (c : Char) : Bool := c == ' ' || c == '\t'

/-- The characters after spaces. -/
def skipSpaces (cs : List Char) : List Char := cs.dropWhile isSpace

/-- A character that no comment and no string may hold as it is. -/
def isControl (c : Char) : Bool := (c.toNat < 0x20 && c != '\t') || c.toNat == 0x7F

/-- The characters after a line end. -/
def afterNewline? : List Char → Option (List Char)
  | '\n' :: rest => some rest
  | '\r' :: '\n' :: rest => some rest
  | _ => none

/-- The characters after a comment, which stop at the end of its line. -/
def skipComment : List Char → List Char
  | '#' :: rest => rest.dropWhile fun c => !isControl c
  | cs => cs

/-- The characters after blanks, comments and line ends. -/
def skipLines : Nat → List Char → List Char
  | 0, cs => cs
  | fuel + 1, cs =>
    let cs := skipSpaces cs
    match cs with
    | '#' :: _ =>
      match afterNewline? (skipComment cs) with
      | some rest => skipLines fuel rest
      | none => skipComment cs
    | cs =>
      match afterNewline? cs with
      | some rest => skipLines fuel rest
      | none => cs

/-- The characters after the end of a statement: a comment and a line end, or the end of the
text. -/
def afterStatement? (cs : List Char) : Option (List Char) :=
  match skipComment (skipSpaces cs) with
  | [] => some []
  | cs => afterNewline? cs

/-! ## Strings -/

/-- The character of a code point, if there is one. -/
def charOf? (n : Nat) : Option Char :=
  if n < 0xD800 || (0xDFFF < n && n < 0x110000) then some (Char.ofNat n) else none

/-- The character that hexadecimal digits name, and what follows them. -/
def codePoint? (count : Nat) (cs : List Char) : Option (Char × List Char) := do
  let ds := cs.take count
  if ds.length == count && ds.all (isDigitOf 16) then
    let c ← charOf? (numberOf 16 ds)
    return (c, cs.drop count)
  else none

/-- The character of an escape, after its backslash. -/
def escape? : List Char → Option (Char × List Char)
  | 'b' :: rest => some ('\x08', rest)
  | 't' :: rest => some ('\t', rest)
  | 'n' :: rest => some ('\n', rest)
  | 'f' :: rest => some ('\x0c', rest)
  | 'r' :: rest => some ('\r', rest)
  | 'e' :: rest => some ('\x1b', rest)
  | '"' :: rest => some ('"', rest)
  | '\\' :: rest => some ('\\', rest)
  | 'x' :: rest => codePoint? 2 rest
  | 'u' :: rest => codePoint? 4 rest
  | 'U' :: rest => codePoint? 8 rest
  | _ => none

/-- The rest of a basic string on one line. -/
def basicString : Nat → List Char → Option (List Char × List Char)
  | 0, _ => none
  | _, [] => none
  | fuel + 1, c :: rest =>
    if c = '"' then some ([], rest)
    else if c = '\\' then do
      let (d, rest) ← escape? rest
      let (more, left) ← basicString fuel rest
      return (d :: more, left)
    else if isControl c then none
    else do
      let (more, left) ← basicString fuel rest
      return (c :: more, left)

/-- The rest of a literal string on one line. -/
def literalString (cs : List Char) : Option (List Char × List Char) :=
  let inside := cs.takeWhile (· ≠ '\'')
  match cs.dropWhile (· ≠ '\'') with
  | [] => none
  | _ :: rest => if inside.any isControl then none else some (inside, rest)

/-- The quotes in front that end a string over several lines: three, with up to two more that
belong to the string. Gives the latter. -/
def closing? (quote : Char) (cs : List Char) : Option (List Char × List Char) :=
  let count := (cs.takeWhile (· == quote)).length
  if 3 ≤ count && count ≤ 5 then some (List.replicate (count - 3) quote, cs.drop count) else none

/-- The characters after blanks and line ends that a backslash at the end of a line skips;
`none` if it is not at the end of one. -/
def afterContinuation? (fuel : Nat) (cs : List Char) : Option (List Char) := do
  let rest ← afterNewline? (skipSpaces cs)
  return skip fuel rest
where
  /-- The characters after blanks and line ends. -/
  skip : Nat → List Char → List Char
    | 0, cs => cs
    | fuel + 1, cs =>
      match afterNewline? (skipSpaces cs) with
      | some rest => skip fuel rest
      | none => skipSpaces cs

/-- The rest of a string over several lines, with or without escapes. -/
def longString (quote : Char) (escapes : Bool) : Nat → List Char → Option (List Char × List Char)
  | 0, _ => none
  | _, [] => none
  | fuel + 1, c :: rest =>
    let keep (cs : List Char) (rest : List Char) : Option (List Char × List Char) := do
      let (more, left) ← longString quote escapes fuel rest
      return (cs ++ more, left)
    if c = quote then
      if (rest.take 2).all (· == quote) && (rest.take 2).length == 2 then closing? quote (c :: rest)
      else keep [c] rest
    else if escapes && c = '\\' then
      match afterContinuation? fuel rest with
      | some rest => longString quote escapes fuel rest
      | none => do
        let (d, rest) ← escape? rest
        keep [d] rest
    else if c = '\n' then keep [c] rest
    else if c = '\r' then
      match rest with
      | '\n' :: rest => keep ['\r', '\n'] rest
      | _ => none
    else if isControl c then none
    else keep [c] rest

/-- The characters without a line end in front. -/
def dropNewline (cs : List Char) : List Char := (afterNewline? cs).getD cs

/-- A string at the front. -/
def string? (cs : List Char) : Option (String × List Char) := do
  let fuel := cs.length + 1
  let (inside, rest) ← match cs with
    | '"' :: '"' :: '"' :: rest => longString '"' true fuel (dropNewline rest)
    | '\'' :: '\'' :: '\'' :: rest => longString '\'' false fuel (dropNewline rest)
    | '"' :: rest => basicString fuel rest
    | '\'' :: rest => literalString rest
    | _ => none
  return (String.ofList inside, rest)

/-! ## Keys -/

/-- A character of a key without quotes. -/
def isBareKeyChar (c : Char) : Bool := c.isAlphanum || c == '_' || c == '-'

/-- A part of a key. -/
def simpleKey? (cs : List Char) : Option (String × List Char) :=
  match cs with
  | '"' :: rest => do
    let (inside, rest) ← basicString (rest.length + 1) rest
    return (String.ofList inside, rest)
  | '\'' :: rest => do
    let (inside, rest) ← literalString rest
    return (String.ofList inside, rest)
  | cs =>
    let name := cs.takeWhile isBareKeyChar
    if name.isEmpty then none else some (String.ofList name, cs.dropWhile isBareKeyChar)

/-- A key of one part or more, but no more than a number of them, with dots between them, and
what follows it and blanks. -/
def keyParts? : Nat → List Char → Option (List String × List Char)
  | 0, _ => none
  | parts + 1, cs => do
    let (name, rest) ← simpleKey? (skipSpaces cs)
    match skipSpaces rest with
    | '.' :: rest =>
      let (more, left) ← keyParts? parts rest
      return (name :: more, left)
    | rest => return ([name], rest)

/-- A key, and what follows it and blanks. -/
def key? (cs : List Char) : Option (List String × List Char) := keyParts? maxDepth cs

/-- A key and the equals sign after it. -/
def keyAndEquals? (cs : List Char) : Option (List String × List Char) := do
  let (path, rest) ← key? cs
  match rest with
  | '=' :: rest => return (path, skipSpaces rest)
  | _ => none

/-! ## Values -/

mutual

/-- A value at the front, inside `depth` brackets. -/
def value? : Nat → Nat → List Char → Option (Value × List Char)
  | 0, _, _ => none
  | fuel + 1, depth, cs =>
    match cs with
    | [] => none
    | c :: rest =>
      if c = '"' || c = '\'' then do
        let (s, rest) ← string? cs
        return (.string s, rest)
      else if c = '[' then
        if depth < maxDepth then do
          let (items, rest) ← items? fuel (depth + 1) (skipLines fuel rest)
          return (.array items, rest)
        else none
      else if c = '\x7b' then
        if depth < maxDepth then do
          let (entries, rest) ← members? fuel (depth + 1) [] (skipLines fuel rest)
          return (.table (entryValues entries), rest)
        else none
      else do
        let (text, rest) := scalarText cs
        let v ← scalar? text
        return (v, rest)

/-- The rest of an array. -/
def items? : Nat → Nat → List Char → Option (List Value × List Char)
  | 0, _, _ => none
  | fuel + 1, depth, cs =>
    match cs with
    | ']' :: rest => some ([], rest)
    | cs => do
      let (v, rest) ← value? fuel depth cs
      match skipLines fuel rest with
      | ',' :: rest =>
        let (more, left) ← items? fuel depth (skipLines fuel rest)
        return (v :: more, left)
      | ']' :: rest => return ([v], rest)
      | _ => none

/-- The rest of a table in braces, with the entries so far. -/
def members? : Nat → Nat → Entries → List Char → Option (Entries × List Char)
  | 0, _, _, _ => none
  | fuel + 1, depth, entries, cs =>
    match cs with
    | '\x7d' :: rest => some (entries, rest)
    | cs => do
      let (path, rest) ← keyAndEquals? cs
      let (v, rest) ← value? fuel depth rest
      let entries ← entries.assign v true path
      match skipLines fuel rest with
      | ',' :: rest => members? fuel depth entries (skipLines fuel rest)
      | '\x7d' :: rest => return (entries, rest)
      | _ => none

end

/-! ## Statements and documents -/

/-- A header or an assignment at the front. -/
def statement? (fuel : Nat) (cs : List Char) : Option (Statement × List Char) :=
  match cs with
  | '[' :: '[' :: rest => do
    let (path, rest) ← key? rest
    match rest with
    | ']' :: ']' :: rest => return (.element path, rest)
    | _ => none
  | '[' :: rest => do
    let (path, rest) ← key? rest
    match rest with
    | ']' :: rest => return (.header path, rest)
    | _ => none
  | cs => do
    let (path, rest) ← keyAndEquals? cs
    let (v, rest) ← value? fuel 0 rest
    return (.assign path v, rest)

/-- The statements of a text. -/
def statements : Nat → List Char → Option (List Statement)
  | 0, _ => none
  | fuel + 1, cs =>
    match skipLines (fuel + 1) cs with
    | [] => some []
    | cs => do
      let (s, rest) ← statement? (fuel + 1) cs
      let rest ← afterStatement? rest
      let more ← statements fuel rest
      return s :: more

/-- The characters of a text without a byte order mark. -/
def withoutMark (cs : List Char) : List Char :=
  match cs with
  | c :: rest => if c = '\uFEFF' then rest else c :: rest
  | [] => []

/-- **The document that a text is**, or `none` if it is none. -/
def ofText? (text : String) : Option (List (String × Value)) := do
  let cs := withoutMark text.toList
  let found ← statements (3 * cs.length + 3) cs
  document? found

end Toml

end ProtoSchema
