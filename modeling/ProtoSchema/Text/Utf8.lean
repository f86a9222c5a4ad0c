/-
Characters and their UTF-8 bytes.

`encode` writes a character as one to four bytes and `decode?` reads one off the front of a
byte list. Both work by arithmetic on code points, so that reading what was written is a
fact about division by sixty-four. A byte list in general is a sequence of `Piece`s:
characters, and runs of bytes that start no character. A run is as long as it could still
have been the beginning of one, which is how far a reader has to go to see that it is not.
-/

set_option autoImplicit false

namespace ProtoSchema

namespace Utf8

/-! ## Writing -/

/-- The UTF-8 bytes of a character. -/
def encode (c : Char) : List UInt8 :=
  let n := c.toNat
  if n < 0x80 then [UInt8.ofNat n]
  else if n < 0x800 then [UInt8.ofNat (0xC0 + n / 64), UInt8.ofNat (0x80 + n % 64)]
  else if n < 0x10000 then
    [UInt8.ofNat (0xE0 + n / 4096), UInt8.ofNat (0x80 + n / 64 % 64), UInt8.ofNat (0x80 + n % 64)]
  else
    [UInt8.ofNat (0xF0 + n / 262144), UInt8.ofNat (0x80 + n / 4096 % 64),
      UInt8.ofNat (0x80 + n / 64 % 64), UInt8.ofNat (0x80 + n % 64)]

/-- The UTF-8 bytes of a string. -/
def bytes (s : String) : List UInt8 := s.toList.flatMap encode

/-- The number of UTF-8 bytes of a string. -/
def size (s : String) : Nat := s.utf8ByteSize

/-! ## Reading -/

/-- A byte that continues a character. -/
def isTail (b : UInt8) : Bool := 0x80 ≤ b.toNat && b.toNat ≤ 0xBF

/-- The bytes allowed second in a character of three or four bytes. They exclude longer
writings of small code points, the surrogates and code points that are too large. -/
def isSecond (lead second : UInt8) : Bool :=
  let b := second.toNat
  match lead.toNat with
  | 0xE0 => 0xA0 ≤ b && b ≤ 0xBF
  | 0xED => 0x80 ≤ b && b ≤ 0x9F
  | 0xF0 => 0x90 ≤ b && b ≤ 0xBF
  | 0xF4 => 0x80 ≤ b && b ≤ 0x8F
  | _ => isTail second

/-- How many bytes a character has, by its first one; zero for a byte that starts none. -/
def lengthOfLead (b : UInt8) : Nat :=
  let n := b.toNat
  if n < 0x80 then 1
  else if n < 0xC2 then 0
  else if n < 0xE0 then 2
  else if n < 0xF0 then 3
  else if n < 0xF5 then 4
  else 0

/-- The six low bits of a continuing byte. -/
def tailBits (b : UInt8) : Nat := b.toNat % 64

/-- **A character, or bytes that are none.** -/
inductive Piece where
  | char (c : Char)
  | invalid (bs : List UInt8)
deriving DecidableEq, Repr

/-- The first piece of a nonempty byte list, and what follows it. -/
def next (lead : UInt8) (rest : List UInt8) : Piece × List UInt8 :=
  match lengthOfLead lead, rest with
  | 1, _ => (.char (Char.ofNat lead.toNat), rest)
  | 2, b :: after =>
    if isTail b then (.char (Char.ofNat (lead.toNat % 32 * 64 + tailBits b)), after)
    else (.invalid [lead], rest)
  | 3, b :: after =>
    if isSecond lead b then
      match after with
      | c :: after' =>
        if isTail c then
          (.char (Char.ofNat (lead.toNat % 16 * 4096 + tailBits b * 64 + tailBits c)), after')
        else (.invalid [lead, b], after)
      | [] => (.invalid [lead, b], [])
    else (.invalid [lead], rest)
  | 4, b :: after =>
    if isSecond lead b then
      match after with
      | c :: after' =>
        if isTail c then
          match after' with
          | d :: after'' =>
            if isTail d then
              (.char (Char.ofNat (lead.toNat % 8 * 262144 + tailBits b * 4096 + tailBits c * 64 +
                tailBits d)), after'')
            else (.invalid [lead, b, c], after')
          | [] => (.invalid [lead, b, c], [])
        else (.invalid [lead, b], after)
      | [] => (.invalid [lead, b], [])
    else (.invalid [lead], rest)
  | _, _ => (.invalid [lead], rest)

/-- Reading a piece leaves no more bytes than stood after its first. -/
theorem length_next_le (lead : UInt8) (rest : List UInt8) :
    (next lead rest).2.length ≤ rest.length := by
  unfold next
  repeat' split
  all_goals simp_all
  all_goals omega

/-- **The pieces of a byte list**, in order. -/
def pieces : List UInt8 → List Piece
  | [] => []
  | lead :: rest => (next lead rest).1 :: pieces (next lead rest).2
termination_by bs => bs.length
decreasing_by
  have := length_next_le lead rest
  simp only [List.length_cons]
  omega

/-- The character of a piece, if it is one. -/
def Piece.char? : Piece → Option Char
  | .char c => some c
  | .invalid _ => none

/-- The string that a byte list writes; `none` if some byte belongs to no character. -/
def string? (bs : List UInt8) : Option String :=
  ((pieces bs).mapM Piece.char?).map String.ofList

/-- The string of a byte list, every run of invalid bytes read as the replacement
character. -/
def lossy (bs : List UInt8) : String :=
  String.ofList ((pieces bs).map fun p => p.char?.getD '\uFFFD')

end Utf8

end ProtoSchema
