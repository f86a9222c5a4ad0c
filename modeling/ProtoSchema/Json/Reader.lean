/-
Reading JSON texts.

A `Reader` consumes bytes from the front of a text and either returns a result or stops at
the first fault. Readers for whole values are built here; readers for records are built
elsewhere from the same parts, so that a record can be read straight from its text and a
fault in an early field is reported although the text breaks off later.

Two limits shape the code. Values nest at most 127 deep: the allowance that remains is an
argument, and the recursion of `value` is on it. Strings and lists of items and members are
bounded by the length of the text, since each part takes at least one byte; `bound` carries
that length, and a reader that is given too small a bound reports that the text ends early.

A value that nobody asks for is skipped: its grammar is checked, but neither the nesting nor
the range of its numbers nor the pairing of surrogates in its strings.
-/
import ProtoSchema.Json.Error
import ProtoSchema.Text.Utf8

set_option autoImplicit false

namespace ProtoSchema

namespace Json

/-- **A reader of `α`** from the front of a byte list. -/
abbrev Reader (α : Type) : Type := StateT (List UInt8) (Except Error) α

namespace Reader

variable {α σ : Type}

/-- The byte of an ASCII character. -/
def ascii (c : Char) : UInt8 := UInt8.ofNat c.toNat

/-- Whether a byte may stand between tokens. -/
def isBlank (b : UInt8) : Bool :=
  b == ascii ' ' || b == ascii '\n' || b == ascii '\t' || b == ascii '\r'

/-- Whether a byte is a decimal digit. -/
def isDigit (b : UInt8) : Bool := ascii '0' ≤ b && b ≤ ascii '9'

/-- The value of a digit. -/
def digitValue (b : UInt8) : Nat := b.toNat - 48

/-- The value of a hexadecimal digit. -/
def hexValue? (b : UInt8) : Option Nat :=
  if isDigit b then some (b.toNat - 48)
  else if ascii 'a' ≤ b && b ≤ ascii 'f' then some (b.toNat - 87)
  else if ascii 'A' ≤ b && b ≤ ascii 'F' then some (b.toNat - 55)
  else none

/-- Refuses the value that was read. -/
def refuse (cause : DataError) : Reader α := throw (.data cause)

/-- The result of a check of what was read. -/
def check (result : Except DataError α) : Reader α :=
  match result with
  | .ok a => pure a
  | .error cause => refuse cause

/-- The byte at the front, which stays there. -/
def front? : Reader (Option UInt8) := fun bs => .ok (bs.head?, bs)

/-- The byte at the front after blanks, which stays there. -/
def peek? : Reader (Option UInt8) := fun bs =>
  let rest := bs.dropWhile isBlank
  .ok (rest.head?, rest)

/-- Takes the byte at the front away. -/
def advance : Reader Unit := modify List.tail

/-- Takes a byte. -/
def next : Reader UInt8 := fun bs =>
  match bs with
  | [] => .error .truncated
  | b :: rest => .ok (b, rest)

/-- Takes exactly these bytes. -/
def exactly : List Char → Reader Unit
  | [] => pure ()
  | c :: rest => do
    let b ← next
    if b == ascii c then exactly rest else throw .malformed

/-- Takes all digits at the front. -/
def digits : Reader (List Nat) := fun bs =>
  .ok ((bs.takeWhile isDigit).map digitValue, bs.dropWhile isDigit)

/-! ## Numbers -/

/-- The greatest significand that is kept exactly. -/
def maxSignificand : Nat := 18446744073709551615

/-- Appends digits to a significand as long as it fits; also how many digits were left. -/
def appendDigits (significand : Nat) : List Nat → Nat × Nat
  | [] => (significand, 0)
  | d :: rest =>
    if significand * 10 + d ≤ maxSignificand then appendDigits (significand * 10 + d) rest
    else (significand, rest.length + 1)

/-- A binary64 number from its parts. -/
def float (negative : Bool) (significand : Nat) (exponent : Int) : Reader Number :=
  match Binary64.ofDecimal negative significand exponent with
  | some x => pure (.float x)
  | none => throw .malformed

/-- The digits before the point: one zero alone, or digits that start with another one. -/
def wholeDigits : Reader (List Nat) := do
  let b ← next
  if b == ascii '0' then
    match ← front? with
    | some c => if isDigit c then throw .malformed else pure [0]
    | none => pure [0]
  else if isDigit b then return digitValue b :: (← digits)
  else throw .malformed

/-- The digits behind the point, at least one. -/
def fractionDigits : Reader (List Nat) := do
  match ← digits with
  | [] =>
    match ← front? with
    | some _ => throw .malformed
    | none => throw .truncated
  | ds => return ds

/-- The exponent behind its letter. -/
def exponent : Reader Int := do
  let negative ← match ← front? with
    | some b =>
      if b == ascii '-' then do advance; pure true
      else if b == ascii '+' then do advance; pure false
      else pure false
    | none => pure false
  let b ← next
  if isDigit b then
    let value : Nat := (digitValue b :: (← digits)).foldl (fun n d => n * 10 + d) 0
    return if negative then -(value : Int) else value
  else throw .malformed

/-- Whether a byte starts an exponent. -/
def isExponentMark (b : UInt8) : Bool := b == ascii 'e' || b == ascii 'E'

/-- An integer numeral: within 64 bits it stays an integer, beyond it becomes a binary64
number, and so does the zero with a sign. -/
def integer (negative : Bool) (significand : Nat) : Reader Number :=
  if !negative then pure (.int significand)
  else if significand = 0 ∨ 9223372036854775808 < significand then float true significand 0
  else pure (.int (-(significand : Int)))

/-- **A number** behind its sign. -/
def number (negative : Bool) : Reader Number := do
  let (significand, skipped) := appendDigits 0 (← wholeDigits)
  match ← front? with
  | some b =>
    if b == ascii '.' then
      advance
      let ds ← fractionDigits
      let (significand, dropped) := appendDigits significand ds
      let scale : Int := (skipped : Int) - ((ds.length - dropped : Nat) : Int)
      match ← front? with
      | some c =>
        if isExponentMark c then
          advance
          float negative significand (scale + (← exponent))
        else float negative significand scale
      | none => float negative significand scale
    else if isExponentMark b then
      advance
      float negative significand ((skipped : Int) + (← exponent))
    else if skipped = 0 then integer negative significand
    else float negative significand skipped
  | none =>
    if skipped = 0 then integer negative significand else float negative significand skipped

/-! ## Strings -/

/-- The code unit of four hexadecimal digits. -/
def codeUnit : Reader Nat := fun bs =>
  match bs with
  | a :: b :: c :: d :: rest =>
    match hexValue? a, hexValue? b, hexValue? c, hexValue? d with
    | some a, some b, some c, some d => .ok (a * 4096 + b * 256 + c * 16 + d, rest)
    | _, _, _, _ => .error .malformed
  | _ => .error .truncated

/-- The character of a code unit, together with the second unit if it is the first half of a
surrogate pair. -/
def escapedCodePoint : Reader Char := do
  let high ← codeUnit
  if 0xDC00 ≤ high ∧ high ≤ 0xDFFF then throw .malformed
  else if 0xD800 ≤ high ∧ high ≤ 0xDBFF then
    if (← next) != ascii '\\' then throw .malformed
    if (← next) != ascii 'u' then throw .malformed
    let low ← codeUnit
    if 0xDC00 ≤ low ∧ low ≤ 0xDFFF then
      return Char.ofNat (0x10000 + (high - 0xD800) * 0x400 + (low - 0xDC00))
    else throw .malformed
  else return Char.ofNat high

/-- The character that a letter behind a backslash stands for. -/
def escapedLetter? (b : UInt8) : Option Char :=
  if b == ascii '"' then some '"'
  else if b == ascii '\\' then some '\\'
  else if b == ascii '/' then some '/'
  else if b == ascii 'b' then some '\x08'
  else if b == ascii 'f' then some '\x0c'
  else if b == ascii 'n' then some '\n'
  else if b == ascii 'r' then some '\r'
  else if b == ascii 't' then some '\t'
  else none

/-- The bytes of a string up to its closing quote, `acc` holding those before in reverse.
`codePoint` reads what follows a backslash and a `u`. -/
def stringBytes (codePoint : Reader (List UInt8)) : Nat → List UInt8 → Reader (List UInt8)
  | 0, _ => throw .truncated
  | bound + 1, acc => do
    let b ← next
    if b == ascii '"' then return acc.reverse
    else if b == ascii '\\' then
      let e ← next
      if e == ascii 'u' then
        let bs ← codePoint
        stringBytes codePoint bound (bs.reverse ++ acc)
      else
        match escapedLetter? e with
        | some c => stringBytes codePoint bound ((Utf8.encode c).reverse ++ acc)
        | none => throw .malformed
    else if b < 0x20 then throw .malformed
    else stringBytes codePoint bound (b :: acc)

/-- **A string** behind its opening quote, of fewer bytes than the bound. -/
def string (bound : Nat) : Reader String := do
  let content ← stringBytes (Utf8.encode <$> escapedCodePoint) bound []
  match Utf8.string? content with
  | some s => return s
  | none => throw .malformed

/-! ## Lists and objects -/

/-- Whether another item follows in an array, the comma before it taken away. -/
def hasItem (first : Bool) : Reader Bool := do
  match ← peek? with
  | none => throw .truncated
  | some b =>
    if b == ascii ']' then return false
    else if first then return true
    else if b == ascii ',' then
      advance
      match ← peek? with
      | none => throw .truncated
      | some c => if c == ascii ']' then throw .malformed else return true
    else throw .malformed

/-- The items of an array behind its opening bracket, up to its closing one. -/
def items (item : Reader α) : Nat → Bool → Reader (List α)
  | 0, _ => throw .truncated
  | bound + 1, first => do
    if ← hasItem first then
      let a ← item
      return a :: (← items item bound false)
    else
      advance
      return []

/-- Whether another member follows in an object, the comma before it and the opening quote of
its name taken away. -/
def hasMember (first : Bool) : Reader Bool := do
  match ← peek? with
  | none => throw .truncated
  | some b =>
    if b == ascii '}' then return false
    else
      if !first then
        if b == ascii ',' then advance else throw .malformed
      match ← peek? with
      | none => throw .truncated
      | some c => if c == ascii '"' then advance; return true else throw .malformed

/-- Takes the colon between a name and its value. -/
def colon : Reader Unit := do
  match ← peek? with
  | none => throw .truncated
  | some b => if b == ascii ':' then advance else throw .malformed

/-- Runs through the members of an object behind its opening brace, up to its closing one.
`member` is given a name and reads from the colon on. -/
def members (name : Reader String) (member : σ → String → Reader σ) :
    Nat → Bool → σ → Reader σ
  | 0, _, _ => throw .truncated
  | bound + 1, first, s => do
    if ← hasMember first then
      let key ← name
      let s ← member s key
      members name member bound false s
    else
      advance
      return s

/-! ## Whole values -/

/-- A value of one word, behind its first letter. -/
def word (rest : String) (value : α) : Reader α := do
  exactly rest.toList
  return value

/-- **A value.** The first argument bounds lists and strings, the second is one more than the
nesting that is still allowed. -/
def value (bound : Nat) : Nat → Reader Json
  | 0 => throw .malformed
  | allowance + 1 => do
    match ← peek? with
    | none => throw .truncated
    | some b =>
      if b == ascii 'n' then do advance; word "ull" .null
      else if b == ascii 't' then do advance; word "rue" (.bool true)
      else if b == ascii 'f' then do advance; word "alse" (.bool false)
      else if b == ascii '-' then do advance; return .number (← number true)
      else if isDigit b then return .number (← number false)
      else if b == ascii '"' then do advance; return .string (← string bound)
      else if b == ascii '[' then
        if allowance = 0 then throw .malformed
        advance
        return .array (← items (value bound allowance) bound true)
      else if b == ascii '\x7b' then
        if allowance = 0 then throw .malformed
        advance
        let member (m : KeyMap Json) (key : String) : Reader (KeyMap Json) := do
          colon
          return m.insert key (← value bound allowance)
        return .object (← members (string bound) member bound true [])
      else throw .malformed

/-- Checks the grammar of a number behind its sign. -/
def skipNumber : Reader Unit := do
  let early : Reader Unit := throw .malformed
  match ← front? with
  | none => early
  | some _ => discard wholeDigits
  let skipExponent : Reader Unit := do
    advance
    match ← front? with
    | some b => if b == ascii '-' || b == ascii '+' then advance
    | none => pure ()
    match ← digits with
    | [] => throw .malformed
    | _ => pure ()
  match ← front? with
  | some b =>
    if b == ascii '.' then
      advance
      match ← digits with
      | [] => early
      | _ =>
        match ← front? with
        | some c => if isExponentMark c then skipExponent
        | none => pure ()
    else if isExponentMark b then skipExponent
  | none => pure ()

/-- Checks the grammar of a string behind its opening quote. -/
def skipString (bound : Nat) : Reader String := do
  discard (stringBytes (codeUnit *> pure []) bound [])
  return ""

/-- Checks the grammar of a value and drops it. -/
def skip (bound : Nat) : Nat → Reader Unit
  | 0 => throw .truncated
  | fuel + 1 => do
    match ← peek? with
    | none => throw .truncated
    | some b =>
      if b == ascii 'n' then do advance; word "ull" ()
      else if b == ascii 't' then do advance; word "rue" ()
      else if b == ascii 'f' then do advance; word "alse" ()
      else if b == ascii '-' then do advance; skipNumber
      else if isDigit b then skipNumber
      else if b == ascii '"' then do advance; discard (skipString bound)
      else if b == ascii '[' then
        advance
        discard (items (skip bound fuel) bound true)
      else if b == ascii '\x7b' then
        advance
        members (skipString bound) (fun _ _ => do colon; skip bound fuel) bound true ()
      else throw .malformed

/-! ## Whole texts -/

/-- The greatest number of arrays and objects around a value. -/
def maxNesting : Nat := 127

/-- **Reads a whole text**: one value with nothing but blanks around it. The reader is given
the length of the text as its bound. -/
def run (reader : Nat → Reader α) (text : List UInt8) : Except Error α := do
  let (a, rest) ← reader (text.length + 1) text
  if rest.all isBlank then return a else throw .malformed

end Reader

/-- The value that a text of UTF-8 bytes writes. -/
def ofBytes (text : List UInt8) : Except Error Json :=
  Reader.run (fun bound => Reader.value bound (Reader.maxNesting + 1)) text

/-- The value that a text writes. -/
def ofText (text : String) : Except Error Json := ofBytes (Utf8.bytes text)

end Json

end ProtoSchema
