/-
Words and tokens of shell scripts.

Tools are often small scripts for the standard shell. A script is a sequence of tokens: words,
operators, redirections and line ends. A word is kept as the pieces it is made of, because
whether a piece was quoted decides later how its value is split into arguments. Reading is
given as much fuel as there are characters; every step takes at least one.
-/

set_option autoImplicit false

namespace ProtoSchema

namespace Script

/-- **A piece of a word**: a text, or a parameter whose value is filled in. -/
inductive Piece where
  | text (chars : List Char) (quoted : Bool)
  | parameter (name : String) (quoted : Bool)
deriving DecidableEq, Repr

/-- A word: pieces that stand without a gap. -/
abbrev Word := List Piece

/-- What a redirection does with its target. -/
inductive RedirectKind where
  | read
  | write
  | append
  | duplicate
deriving DecidableEq, Repr

/-- **A token of a script.** -/
inductive Token where
  | word (w : Word)
  /-- A redirection of a stream, by its number. The next word is the target. -/
  | redirect (stream : Nat) (kind : RedirectKind)
  | operator (symbol : String)
  | newline
deriving DecidableEq, Repr

/-! ## Characters -/

/-- A character that divides words. -/
def isGap (c : Char) : Bool := c == ' ' || c == '\t'

/-- A character that ends an unquoted word. -/
def endsWord (c : Char) : Bool :=
  isGap c || c == '\n' || c == ';' || c == '&' || c == '|' || c == '<' || c == '>' || c == '('
    || c == ')'

/-- A character that may start the name of a variable. -/
def startsName (c : Char) : Bool := c.isAlpha || c == '_'

/-- A character of the name of a variable. -/
def isNameChar (c : Char) : Bool := startsName c || c.isDigit

/-- A parameter with a name of one character. -/
def isSpecial (c : Char) : Bool := c.isDigit || "@*#?$!-".toList.contains c

/-- Whether a text is the name of a parameter. -/
def isParameter : List Char → Bool
  | [] => false
  | [c] => isSpecial c || startsName c
  | c :: rest => (startsName c && rest.all isNameChar) || (c.isDigit && rest.all Char.isDigit)

/-! ## Words -/

/-- The parameter that follows a dollar sign, and the characters after it. -/
def parameter? : List Char → Option (String × List Char)
  | [] => none
  | c :: rest =>
    if c = '\x7b' then
      let name := rest.takeWhile (· ≠ '\x7d')
      if isParameter name then some (String.ofList name, (rest.dropWhile (· ≠ '\x7d')).drop 1)
      else none
    else if isSpecial c then some (String.ofList [c], rest)
    else if startsName c then
      some (String.ofList (c :: rest.takeWhile isNameChar), rest.dropWhile isNameChar)
    else none

/-- Whether a dollar sign before these characters stands for itself. -/
def isPlainDollar : List Char → Bool
  | [] => true
  | c :: _ => !(c == '\x7b' || c == '(')

/-- The pieces up to a closing double quote. -/
def doubleQuoted : Nat → List Char → Option (List Piece × List Char)
  | 0, _ => none
  | _, [] => none
  | fuel + 1, c :: rest =>
    if c = '"' then some ([], rest)
    else if c = '\x60' then none
    else if c = '\\' then
      match rest with
      | [] => none
      | d :: after =>
        if d = '\n' then doubleQuoted fuel after
        else do
          let (pieces, left) ← doubleQuoted fuel after
          if d = '$' || d = '\x60' || d = '"' || d = '\\' then
            return (.text [d] true :: pieces, left)
          else return (.text ['\\', d] true :: pieces, left)
    else if c = '$' then
      match parameter? rest with
      | some (name, after) => do
        let (pieces, left) ← doubleQuoted fuel after
        return (.parameter name true :: pieces, left)
      | none =>
        if isPlainDollar rest then do
          let (pieces, left) ← doubleQuoted fuel rest
          return (.text ['$'] true :: pieces, left)
        else none
    else do
      let (pieces, left) ← doubleQuoted fuel rest
      return (.text [c] true :: pieces, left)

/-- The pieces of a word, and the characters after it. -/
def pieces : Nat → List Char → Option (List Piece × List Char)
  | 0, _ => none
  | _, [] => some ([], [])
  | fuel + 1, c :: rest =>
    if endsWord c then some ([], c :: rest)
    else if c = '\x60' then none
    else if c = '\'' then
      let inside := rest.takeWhile (· ≠ '\'')
      match rest.dropWhile (· ≠ '\'') with
      | [] => none
      | _ :: after => do
        let (more, left) ← pieces fuel after
        return (.text inside true :: more, left)
    else if c = '"' then do
      let (inside, after) ← doubleQuoted fuel rest
      let (more, left) ← pieces fuel after
      return ((if inside.isEmpty then [.text [] true] else inside) ++ more, left)
    else if c = '\\' then
      match rest with
      | [] => none
      | d :: after => do
        let (more, left) ← pieces fuel after
        return (if d = '\n' then more else .text [d] true :: more, left)
    else if c = '$' then
      match parameter? rest with
      | some (name, after) => do
        let (more, left) ← pieces fuel after
        return (.parameter name false :: more, left)
      | none =>
        if isPlainDollar rest then do
          let (more, left) ← pieces fuel rest
          return (.text ['$'] false :: more, left)
        else none
    else do
      let (more, left) ← pieces fuel rest
      return (.text [c] false :: more, left)

/-- Pieces with neighbouring texts of one kind joined. -/
def joinTexts : List Piece → Word
  | .text a q :: rest =>
    match joinTexts rest with
    | .text b r :: more => if q == r then .text (a ++ b) q :: more else .text a q :: .text b r :: more
    | more => .text a q :: more
  | p :: rest => p :: joinTexts rest
  | [] => []

/-- The text of a word without quotes and parameters. -/
def Word.plain? : Word → Option String
  | [.text cs false] => some (String.ofList cs)
  | _ => none

/-! ## Tokens -/

/-- The redirection that starts with an angle bracket, and the characters after it. -/
def redirect? (stream : Option Nat) : List Char → Option (Token × List Char)
  | '>' :: '>' :: rest => some (.redirect (stream.getD 1) .append, rest)
  | '>' :: '&' :: rest => some (.redirect (stream.getD 1) .duplicate, rest)
  | '>' :: '|' :: rest => some (.redirect (stream.getD 1) .write, rest)
  | '>' :: rest => some (.redirect (stream.getD 1) .write, rest)
  | '<' :: '<' :: _ => none
  | '<' :: '>' :: _ => none
  | '<' :: '&' :: rest => some (.redirect (stream.getD 0) .duplicate, rest)
  | '<' :: rest => some (.redirect (stream.getD 0) .read, rest)
  | _ => none

/-- The operator at the front, and the characters after it. -/
def operator? : List Char → Option (String × List Char)
  | ';' :: ';' :: rest => some (";;", rest)
  | ';' :: rest => some (";", rest)
  | '&' :: '&' :: rest => some ("&&", rest)
  | '|' :: '|' :: rest => some ("||", rest)
  | '|' :: rest => some ("|", rest)
  | '(' :: rest => some ("(", rest)
  | ')' :: rest => some (")", rest)
  | _ => none

/-- The tokens of a script, or `none` if a part of it cannot be read. -/
def tokens : Nat → List Char → Option (List Token)
  | 0, _ => none
  | _, [] => some []
  | fuel + 1, c :: rest =>
    if isGap c then tokens fuel rest
    else if c = '\n' then do
      let more ← tokens fuel rest
      return .newline :: more
    else if c = '#' then tokens fuel (rest.dropWhile (· ≠ '\n'))
    else if c = '<' || c = '>' then do
      let (token, after) ← redirect? none (c :: rest)
      let more ← tokens fuel after
      return token :: more
    else if c.isDigit && (rest.head? == some '<' || rest.head? == some '>') then do
      let (token, after) ← redirect? (some (c.toNat - 48)) rest
      let more ← tokens fuel after
      return token :: more
    else if c = '\\' && rest.head? == some '\n' then tokens fuel (rest.drop 1)
    else if endsWord c then do
      let (symbol, after) ← operator? (c :: rest)
      let more ← tokens fuel after
      return .operator symbol :: more
    else do
      let (ps, after) ← pieces (fuel + 1) (c :: rest)
      let more ← tokens fuel after
      return .word (joinTexts ps) :: more

end Script

end ProtoSchema
