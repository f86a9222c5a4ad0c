/-
Scalars of TOML: truth values, numbers, dates and times.

A scalar other than a string is a run of letters, digits and a few signs. Which kind it is
follows from its form alone, and the forms exclude each other.
-/
import ProtoSchema.Toml.Basic

set_option autoImplicit false

namespace ProtoSchema

namespace Toml

/-! ## Digits -/

/-- The value of a digit, in any base up to sixteen. -/
def digitValue? (c : Char) : Option Nat :=
  if c.isDigit then some (c.toNat - 48)
  else if 'a' ≤ c && c ≤ 'f' then some (c.toNat - 87)
  else if 'A' ≤ c && c ≤ 'F' then some (c.toNat - 55)
  else none

/-- Whether a character is a digit of a base. -/
def isDigitOf (base : Nat) (c : Char) : Bool :=
  match digitValue? c with
  | some d => d < base
  | none => false

/-- The digits of a number that may have underscores between digits. -/
def digits? (base : Nat) : List Char → Option (List Char)
  | [] => none
  | [c] => if isDigitOf base c then some [c] else none
  | c :: '_' :: rest => do
    if isDigitOf base c then
      let more ← digits? base rest
      return c :: more
    else none
  | c :: rest => do
    if isDigitOf base c then
      let more ← digits? base rest
      return c :: more
    else none

/-- The number that digits write in a base. -/
def numberOf (base : Nat) (ds : List Char) : Nat :=
  ds.foldl (fun n d => base * n + (digitValue? d).getD 0) 0

/-- The sign of a number, which is negative for `true`, and what follows it. -/
def sign : List Char → Bool × List Char
  | '-' :: rest => (true, rest)
  | '+' :: rest => (false, rest)
  | cs => (false, cs)

/-- The digits of a decimal number without superfluous zeros in front. -/
def decimalDigits? (cs : List Char) : Option (List Char) := do
  let ds ← digits? 10 cs
  match ds with
  | '0' :: _ :: _ => none
  | ds => some ds

/-! ## Integers -/

/-- The integers that can be represented: those of 128 bits, with or without a sign. -/
def isRepresentable (n : Int) : Bool := -(Nat.pow 2 127 : Int) ≤ n && n < (Nat.pow 2 128 : Int)

/-- The integer that a text writes, however large. -/
def anyInteger? : List Char → Option Int
  | '0' :: 'x' :: rest => (digits? 16 rest).map fun ds => (numberOf 16 ds : Int)
  | '0' :: 'o' :: rest => (digits? 8 rest).map fun ds => (numberOf 8 ds : Int)
  | '0' :: 'b' :: rest => (digits? 2 rest).map fun ds => (numberOf 2 ds : Int)
  | cs => do
    let (negative, rest) := sign cs
    let ds ← decimalDigits? rest
    let n : Int := numberOf 10 ds
    return if negative then -n else n

/-- The integer that a text writes. -/
def integer? (cs : List Char) : Option Int := (anyInteger? cs).filter isRepresentable

/-! ## Floating-point numbers -/

/-- Whether the number `m * 10 ^ e` is too large for a double: whether it rounds above the
largest one. -/
def overflows (m : Nat) (e : Int) : Bool :=
  let limit := Nat.pow 2 1024 - Nat.pow 2 970
  if m == 0 then false
  else if e > 400 then true
  else if 0 ≤ e then limit ≤ m * Nat.pow 10 e.toNat
  else
    -- A mantissa of `d` digits over more than `d` tens is below one.
    let below := (-e).toNat
    if (Nat.toDigits 10 m).length < below then false else limit * Nat.pow 10 below ≤ m

/-- Whether a text is a floating-point number: a fraction, an exponent or both behind a decimal
number, or the word for infinity or for no number. -/
def isFloat (cs : List Char) : Bool :=
  let (_, rest) := sign cs
  if rest == "inf".toList || rest == "nan".toList then true
  else
    let isMark (c : Char) : Bool := c == 'e' || c == 'E'
    let mantissa := rest.takeWhile fun c => !isMark c
    let tail := rest.dropWhile fun c => !isMark c
    let whole := mantissa.takeWhile (· ≠ '.')
    let fraction := mantissa.dropWhile (· ≠ '.')
    if tail.isEmpty && fraction.isEmpty then false
    else
      let exponent? : Option Int := match tail with
        | [] => some 0
        | _ :: cs => do
          let (negative, ds) := sign cs
          let ds ← digits? 10 ds
          let n : Int := numberOf 10 ds
          return if negative then -n else n
      let fraction? : Option (List Char) := match fraction with
        | [] => some []
        | _ :: cs => digits? 10 cs
      match decimalDigits? whole, fraction?, exponent? with
      | some ws, some fs, some e => !overflows (numberOf 10 (ws ++ fs)) (e - fs.length)
      | _, _, _ => false

/-! ## Dates and times -/

/-- A number of a fixed count of digits in front, and what follows it. -/
def fixed? (count : Nat) (cs : List Char) : Option (Nat × List Char) :=
  let ds := cs.take count
  if ds.length == count && ds.all Char.isDigit && !((cs.drop count).head?.map Char.isDigit).getD false
  then some (numberOf 10 ds, cs.drop count)
  else none

/-- What follows a character that has to stand in front. -/
def expect? (c : Char) : List Char → Option (List Char)
  | d :: rest => if c = d then some rest else none
  | [] => none

/-- The number of days of a month. -/
def daysInMonth (year month : Nat) : Nat :=
  if month == 2 then
    if year % 4 == 0 && (year % 100 != 0 || year % 400 == 0) then 29 else 28
  else if [4, 6, 9, 11].contains month then 30
  else 31

/-- What follows a date. -/
def afterDate? (cs : List Char) : Option (List Char) := do
  let (year, cs) ← fixed? 4 cs
  let cs ← expect? '-' cs
  let (month, cs) ← fixed? 2 cs
  let cs ← expect? '-' cs
  let (day, cs) ← fixed? 2 cs
  if 1 ≤ month && month ≤ 12 && 1 ≤ day && day ≤ daysInMonth year month then some cs else none

/-- What follows the fraction of a second, if there is one. -/
def afterFraction? : List Char → Option (List Char)
  | '.' :: rest =>
    if (rest.head?.map Char.isDigit).getD false then some (rest.dropWhile Char.isDigit) else none
  | cs => some cs

/-- What follows a time. The seconds may be left out. -/
def afterTime? (cs : List Char) : Option (List Char) := do
  let (hour, cs) ← fixed? 2 cs
  let cs ← expect? ':' cs
  let (minute, cs) ← fixed? 2 cs
  if 23 < hour || 59 < minute then none
  else
    match cs with
    | ':' :: rest =>
      let (second, cs) ← fixed? 2 rest
      if 60 < second then none else afterFraction? cs
    | cs => some cs

/-- What follows the distance from universal time, if there is one. -/
def afterOffset? : List Char → Option (List Char)
  | c :: rest =>
    if c = 'Z' || c = 'z' then some rest
    else if c = '+' || c = '-' then do
      let (hour, cs) ← fixed? 2 rest
      let cs ← expect? ':' cs
      let (minute, cs) ← fixed? 2 cs
      if 23 < hour || 59 < minute then none else some cs
    else some (c :: rest)
  | [] => some []

/-- Whether a text is a date, a time, or a date with a time. -/
def isDatetime (cs : List Char) : Bool :=
  let rest? : Option (List Char) :=
    match afterDate? cs with
    | some [] => some []
    | some (c :: time) =>
      if c = 'T' || c = 't' || c = ' ' then (afterTime? time).bind afterOffset? else none
    | none => afterTime? cs
  rest? == some []

/-! ## Scalars -/

/-- A character of a scalar other than a string. -/
def isScalarChar (c : Char) : Bool :=
  c.isAlphanum || c == '_' || c == '+' || c == '-' || c == '.' || c == ':'

/-- The characters of a scalar, and what follows them. A date goes on behind a blank if a time
follows. -/
def scalarText (cs : List Char) : List Char × List Char :=
  let text := cs.takeWhile isScalarChar
  let rest := cs.dropWhile isScalarChar
  match rest with
  | ' ' :: after =>
    let time := after.takeWhile isScalarChar
    if afterDate? text == some [] && (time.head?.map Char.isDigit).getD false then
      (text ++ ' ' :: time, after.dropWhile isScalarChar)
    else (text, rest)
  | rest => (text, rest)

/-- **The scalar that a text is.** -/
def scalar? (cs : List Char) : Option Value :=
  if cs == "true".toList then some (.boolean true)
  else if cs == "false".toList then some (.boolean false)
  else
    match integer? cs with
    | some n => some (.integer n)
    | none =>
      if isFloat cs then some (.float (String.ofList cs))
      else if isDatetime cs then some (.datetime (String.ofList cs))
      else none

end Toml

end ProtoSchema
