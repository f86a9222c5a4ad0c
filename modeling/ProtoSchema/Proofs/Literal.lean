/-
Literals give their bytes back.

Between its quotes a literal holds escaped text: no quote, backslash or control stands there by
itself (`Escaped`), so the quote that ends the literal is the first one that is not escaped.
Reading the text byte by byte and undoing the escapes gives the byte string that was written
(`unescape?_body`), so different byte strings have different literals. A string is written like
the byte string of its UTF-8 bytes.
-/
import ProtoSchema.Literal
import ProtoSchema.Proofs.Text.Utf8

set_option autoImplicit false

namespace ProtoSchema

namespace Literal

/-! ## Reading escaped text -/

/-- The number that a hexadecimal digit stands for. -/
def hexDigit? (b : UInt8) : Option Nat :=
  if 0x30 ≤ b.toNat ∧ b.toNat ≤ 0x39 then some (b.toNat - 0x30)
  else if 0x41 ≤ b.toNat ∧ b.toNat ≤ 0x46 then some (b.toNat - 0x41 + 10)
  else if 0x61 ≤ b.toNat ∧ b.toNat ≤ 0x66 then some (b.toNat - 0x61 + 10)
  else none

/-- The byte that a letter behind a backslash stands for. -/
def escapedByte? (b : UInt8) : Option UInt8 :=
  if b = 0x22 then some 0x22
  else if b = 0x5C then some 0x5C
  else if b = 0x6E then some 0x0A
  else if b = 0x72 then some 0x0D
  else if b = 0x74 then some 0x09
  else none

/-- **The bytes that escaped text stands for.** Bytes are copied; a backslash starts a letter for
a byte, or an `x` and exactly two hexadecimal digits. -/
def unescape? : List UInt8 → Option (List UInt8)
  | [] => some []
  | b :: rest =>
    if b = 0x5C then
      match rest with
      | [] => none
      | letter :: more =>
        if letter = 0x78 then
          match more with
          | high :: low :: more => do
            let h ← hexDigit? high
            let l ← hexDigit? low
            (UInt8.ofNat (16 * h + l) :: ·) <$> unescape? more
          | _ => none
        else do
          let b ← escapedByte? letter
          (b :: ·) <$> unescape? more
    else (b :: ·) <$> unescape? rest

/-! ## How a character is written -/

/-- **The three ways to write a character**: a backslash and a letter, its hexadecimal code, or
the character itself. -/
theorem escape_cases (c : Char) :
    (∃ (letter : Char) (l b : UInt8), escape c = ['\\', letter] ∧ isControl letter = false ∧
      Utf8.encode letter = [l] ∧ Utf8.encode c = [b] ∧ escapedByte? l = some b) ∨
    (escape c = hexEscape (UInt8.ofNat c.toNat) ∧ c.toNat < 0x80) ∨
    (escape c = [c] ∧ c ≠ '"' ∧ c ≠ '\\' ∧ isControl c = false) := by
  by_cases hquote : c = '"'
  · subst hquote
    exact .inl ⟨'"', 0x22, 0x22, by decide, by decide, by decide, by decide, by decide⟩
  by_cases hslash : c = '\\'
  · subst hslash
    exact .inl ⟨'\\', 0x5C, 0x5C, by decide, by decide, by decide, by decide, by decide⟩
  by_cases hn : c = '\n'
  · subst hn
    exact .inl ⟨'n', 0x6E, 0x0A, by decide, by decide, by decide, by decide, by decide⟩
  by_cases hr : c = '\r'
  · subst hr
    exact .inl ⟨'r', 0x72, 0x0D, by decide, by decide, by decide, by decide, by decide⟩
  by_cases ht : c = '\t'
  · subst ht
    exact .inl ⟨'t', 0x74, 0x09, by decide, by decide, by decide, by decide, by decide⟩
  -- what is left has no letter of its own
  rw [escape, if_neg hquote, if_neg hslash, if_neg hn, if_neg hr, if_neg ht]
  by_cases hcontrol : isControl c = true
  · refine .inr (.inl ⟨if_pos hcontrol, ?_⟩)
    simp only [isControl, Bool.or_eq_true, decide_eq_true_eq, beq_iff_eq] at hcontrol
    omega
  · exact .inr (.inr ⟨if_neg hcontrol, hquote, hslash, by simpa using hcontrol⟩)

/-! ## Escaped text -/

/-- **Text that can stand between quotes**: quotes, backslashes and controls occur only behind a
backslash, in the form of another character. -/
inductive Escaped : List Char → Prop where
  | nil : Escaped []
  | plain {c : Char} {cs : List Char} (hquote : c ≠ '"') (hslash : c ≠ '\\')
      (hcontrol : isControl c = false) (rest : Escaped cs) : Escaped (c :: cs)
  | pair {c : Char} {cs : List Char} (hcontrol : isControl c = false) (rest : Escaped cs) :
      Escaped ('\\' :: c :: cs)

/-- Escaped texts can be put together. -/
theorem Escaped.append {cs ds : List Char} (hcs : Escaped cs) (hds : Escaped ds) :
    Escaped (cs ++ ds) := by
  induction hcs with
  | nil => exact hds
  | plain hquote hslash hcontrol _ ih => exact .plain hquote hslash hcontrol ih
  | pair hcontrol _ ih => exact .pair hcontrol ih

/-- A text made of escaped pieces is escaped. -/
theorem Escaped.flatMap {α : Type} {f : α → List Char} (h : ∀ a, Escaped (f a)) (as : List α) :
    Escaped (as.flatMap f) := by
  induction as with
  | nil => exact .nil
  | cons a as ih => exact (h a).append ih

/-- **The closing quote is the first one that is not escaped.** -/
theorem Escaped.append_quote_inj {b d r s : List Char} (hb : Escaped b) (hd : Escaped d)
    (h : b ++ '"' :: r = d ++ '"' :: s) : b = d ∧ r = s := by
  -- the first characters say how both texts begin: with the quote, a plain character or a backslash
  induction hb generalizing d with
  | nil =>
    cases hd with
    | nil => exact ⟨rfl, (List.cons.inj h).2⟩
    | plain hquote _ _ _ => exact absurd (List.cons.inj h).1.symm hquote
    | pair _ _ => exact absurd (List.cons.inj h).1 (by decide)
  | plain hquote hslash _ _ ih =>
    cases hd with
    | nil => exact absurd (List.cons.inj h).1 hquote
    | plain _ _ _ hrest =>
      obtain ⟨rfl, htail⟩ := List.cons.inj h
      obtain ⟨rfl, hrs⟩ := ih hrest htail
      exact ⟨rfl, hrs⟩
    | pair _ _ => exact absurd (List.cons.inj h).1 hslash
  | pair _ _ ih =>
    cases hd with
    | nil => exact absurd (List.cons.inj h).1 (by decide)
    | plain _ hslash _ _ => exact absurd (List.cons.inj h).1.symm hslash
    | pair _ hrest =>
      obtain ⟨-, hpair⟩ := List.cons.inj h
      obtain ⟨rfl, htail⟩ := List.cons.inj hpair
      obtain ⟨rfl, hrs⟩ := ih hrest htail
      exact ⟨rfl, hrs⟩

theorem escaped_hexDigit {n : Nat} (h : n < 16) : Escaped [Nat.digitChar n] := by
  have hall : ∀ n < 16, Nat.digitChar n ≠ '"' ∧ Nat.digitChar n ≠ '\\' ∧
      isControl (Nat.digitChar n) = false := by decide
  obtain ⟨hquote, hslash, hcontrol⟩ := hall n h
  exact .plain hquote hslash hcontrol .nil

/-- A byte written in hexadecimal has neither quotes nor control characters. -/
theorem escaped_hexEscape (b : UInt8) : Escaped (hexEscape b) := by
  have hhigh : Escaped [Nat.digitChar (b.toNat / 16)] :=
    escaped_hexDigit (by have := b.toNat_lt; omega)
  have hlow : Escaped [Nat.digitChar (b.toNat % 16)] := escaped_hexDigit (Nat.mod_lt _ (by omega))
  exact .pair (by decide) (hhigh.append hlow)

/-- **Every character is escaped as far as it has to be.** -/
theorem escaped_escape (c : Char) : Escaped (escape c) := by
  obtain ⟨letter, _, _, heq, hcontrol, -⟩ | ⟨heq, -⟩ | ⟨heq, hquote, hslash, hcontrol⟩ :=
    escape_cases c
  · rw [heq]
    exact .pair hcontrol .nil
  · rw [heq]
    exact escaped_hexEscape _
  · rw [heq]
    exact .plain hquote hslash hcontrol .nil

/-- So is every piece, a character or a byte that belongs to none. -/
theorem escaped_escapePiece (p : Utf8.Piece) : Escaped (escapePiece p) := by
  cases p with
  | char c => exact escaped_escape c
  | invalid bs => exact .flatMap escaped_hexEscape bs

/-! ## Undoing the escapes -/

/-- A letter behind a backslash stands for one byte. -/
theorem unescape?_letter {letter b : UInt8} (h : escapedByte? letter = some b)
    (rest : List UInt8) :
    unescape? (0x5C :: letter :: rest) = (b :: ·) <$> unescape? rest := by
  have hx : letter ≠ 0x78 := by
    rintro rfl
    cases h
  rw [unescape?.eq_def]
  simp only [if_pos, if_neg hx, h]
  rfl

/-- What is no backslash is copied. -/
theorem unescape?_append {bs : List UInt8} (h : ∀ b ∈ bs, b ≠ 0x5C) (rest : List UInt8) :
    unescape? (bs ++ rest) = (bs ++ ·) <$> unescape? rest := by
  induction bs with
  | nil => simp
  | cons b bs ih =>
    obtain ⟨hb, hbs⟩ := List.forall_mem_cons.mp h
    rw [List.cons_append, unescape?.eq_def]
    simp only [if_neg hb, ih hbs]
    simp [Function.comp_def]

/-- A hexadecimal digit is read back. -/
theorem hexDigit?_digitChar {n : Nat} (h : n < 16) :
    hexDigit? (UInt8.ofNat (Nat.digitChar n).toNat) = some n := by
  have hall : ∀ n < 16, hexDigit? (UInt8.ofNat (Nat.digitChar n).toNat) = some n := by decide
  exact hall n h

theorem encode_digitChar {n : Nat} (h : n < 16) :
    Utf8.encode (Nat.digitChar n) = [UInt8.ofNat (Nat.digitChar n).toNat] := by
  have hall : ∀ n < 16, Utf8.encode (Nat.digitChar n) = [UInt8.ofNat (Nat.digitChar n).toNat] := by
    decide
  exact hall n h

/-- **A byte in hexadecimal is read back**, whatever follows: it has always two digits. -/
theorem unescape?_hexEscape (b : UInt8) (rest : List UInt8) :
    unescape? ((hexEscape b).flatMap Utf8.encode ++ rest) = (b :: ·) <$> unescape? rest := by
  have hhigh : b.toNat / 16 < 16 := by have := b.toNat_lt; omega
  have hlow : b.toNat % 16 < 16 := Nat.mod_lt _ (by omega)
  have hbytes : (hexEscape b).flatMap Utf8.encode = [0x5C, 0x78,
      UInt8.ofNat (Nat.digitChar (b.toNat / 16)).toNat,
      UInt8.ofNat (Nat.digitChar (b.toNat % 16)).toNat] := by
    simp only [hexEscape, List.flatMap_cons, encode_digitChar hhigh, encode_digitChar hlow]
    rfl
  have hvalue : UInt8.ofNat (16 * (b.toNat / 16) + b.toNat % 16) = b := by
    rw [Nat.div_add_mod, UInt8.ofNat_toNat]
  rw [hbytes]
  simp only [List.cons_append, List.nil_append]
  rw [unescape?.eq_def]
  simp only [if_pos, hexDigit?_digitChar hhigh, hexDigit?_digitChar hlow, Option.bind_eq_bind,
    Option.bind_some, hvalue]

/-- No byte of another character looks like a backslash. Bytes of longer characters are all above
ASCII. -/
theorem ne_of_mem_encode {c : Char} (h : c ≠ '\\') : ∀ b ∈ Utf8.encode c, b ≠ 0x5C := by
  have hn : c.toNat ≠ 0x5C := fun hn => h (Char.toNat_inj.mp hn)
  have hlt := Utf8.toNat_valid c
  unfold Utf8.encode
  simp only
  generalize c.toNat = n at hn hlt
  -- the bytes of a longer character are all above those of ASCII
  split_ifs
  all_goals
    simp only [List.forall_mem_cons, List.not_mem_nil, IsEmpty.forall_iff, implies_true,
      ne_eq, ← UInt8.toNat_inj]
    simp (disch := omega) only [Utf8.toNat_byte]
    simp
    omega

/-- Undoing the escape of a character gives its bytes. -/
theorem unescape?_escape (c : Char) (rest : List UInt8) :
    unescape? ((escape c).flatMap Utf8.encode ++ rest) =
      (Utf8.encode c ++ ·) <$> unescape? rest := by
  obtain ⟨letter, l, b, heq, -, hl, hb, hescaped⟩ | ⟨heq, hn⟩ | ⟨heq, -, hslash, -⟩ :=
    escape_cases c
  · have hbytes : (escape c).flatMap Utf8.encode = [0x5C, l] := by
      rw [heq, List.flatMap_cons, List.flatMap_singleton, hl]
      rfl
    rw [hbytes, hb]
    exact unescape?_letter hescaped rest
  · have hencode : Utf8.encode c = [UInt8.ofNat c.toNat] := by simp only [Utf8.encode, if_pos hn]
    rw [heq, unescape?_hexEscape, hencode]
    rfl
  · rw [heq, List.flatMap_singleton]
    exact unescape?_append (ne_of_mem_encode hslash) rest

/-- **A piece is read back**, whatever follows. -/
theorem unescape?_escapePiece (p : Utf8.Piece) (rest : List UInt8) :
    unescape? ((escapePiece p).flatMap Utf8.encode ++ rest) =
      (p.bytes ++ ·) <$> unescape? rest := by
  cases p with
  | char c => exact unescape?_escape c rest
  | invalid bs =>
    rw [escapePiece, Utf8.Piece.bytes]
    induction bs with
    | nil => simp
    | cons b bs ih =>
      rw [List.flatMap_cons, List.flatMap_append, List.append_assoc, unescape?_hexEscape, ih]
      simp [Function.comp_def]

/-- The escaped characters of a byte string. -/
def body (bs : List UInt8) : List Char := (Utf8.pieces bs).flatMap escapePiece

/-- What stands between the quotes is escaped. -/
theorem escaped_body (bs : List UInt8) : Escaped (body bs) := .flatMap escaped_escapePiece _

/-- **Every byte list is read back** from what stands between the quotes. The induction is on its
pieces. -/
theorem unescape?_body (bs : List UInt8) : unescape? ((body bs).flatMap Utf8.encode) = some bs := by
  have hpieces : ∀ ps : List Utf8.Piece,
      unescape? ((ps.flatMap escapePiece).flatMap Utf8.encode) =
        some (ps.flatMap Utf8.Piece.bytes) := by
    intro ps
    induction ps with
    | nil => rfl
    | cons p ps ih =>
      rw [List.flatMap_cons, List.flatMap_append, unescape?_escapePiece, ih]
      rfl
  rw [body, hpieces, Utf8.flatMap_bytes_pieces]

/-- Different bytes are written differently. -/
theorem body_injective : Function.Injective body := by
  intro bs cs h
  have hsome : some bs = some cs := by rw [← unescape?_body, ← unescape?_body, h]
  exact Option.some.inj hsome

/-- A string is written as its bytes are. -/
theorem ofBytes_bytes (s : String) : ofBytes (Utf8.bytes s) = ofString s := by
  rw [ofBytes, ofString, Utf8.pieces_bytes, List.flatMap_map]
  rfl

/-- A literal is its escaped bytes between two quotes. -/
theorem toList_ofBytes (bs : List UInt8) : (ofBytes bs).toList = '"' :: body bs ++ ['"'] := by
  rw [ofBytes, inQuotes, String.toList_ofList]
  rfl

/-! ## Whole literals -/

/-- **The bytes that a literal stands for**: the quotes around it are dropped, and between them
the escapes are undone. -/
def read? : List UInt8 → Option (List UInt8)
  | [] => none
  | b :: rest =>
    if b = 0x22 ∧ rest.getLast? = some 0x22 then unescape? rest.dropLast else none

theorem bytes_ofBytes (bs : List UInt8) :
    Utf8.bytes (ofBytes bs) = 0x22 :: ((body bs).flatMap Utf8.encode ++ [0x22]) := by
  have hquote : Utf8.encode '"' = [0x22] := by decide
  rw [Utf8.bytes, toList_ofBytes, List.cons_append, List.flatMap_cons, List.flatMap_append,
    List.flatMap_singleton, hquote]
  rfl

/-- **A literal is read back.** -/
theorem read?_ofBytes (bs : List UInt8) : read? (Utf8.bytes (ofBytes bs)) = some bs := by
  rw [bytes_ofBytes, read?, if_pos ⟨rfl, List.getLast?_concat⟩, List.dropLast_concat]
  exact unescape?_body bs

/-- An escaped text has no control characters. -/
theorem Escaped.isControl_eq_false {cs : List Char} (h : Escaped cs) {c : Char} (hc : c ∈ cs) :
    isControl c = false := by
  induction h with
  | nil => cases hc
  | plain _ _ hcontrol _ ih =>
    rcases List.mem_cons.mp hc with rfl | hc
    · exact hcontrol
    · exact ih hc
  | pair hcontrol _ ih =>
    rcases List.mem_cons.mp hc with rfl | hc
    · decide
    rcases List.mem_cons.mp hc with rfl | hc
    · exact hcontrol
    · exact ih hc

/-- Nor does a literal, whose quotes are none either. -/
theorem isControl_of_mem_ofBytes {bs : List UInt8} {c : Char} (hc : c ∈ (ofBytes bs).toList) :
    isControl c = false := by
  rw [toList_ofBytes, List.mem_append, List.mem_cons, List.mem_singleton] at hc
  rcases hc with (rfl | hc) | rfl
  · decide
  · exact (escaped_body bs).isControl_eq_false hc
  · decide

/-- **Literals are faithful.** The literal of a byte string stands in quotes, between them no
quote is unescaped and nowhere in it is a control, and its bytes are read as the byte string. A
string has the literal of its bytes. -/
theorem ofBytes_faithful :
    (∀ bs : List UInt8,
      (∃ inside, (ofBytes bs).toList = '"' :: inside ++ ['"'] ∧ Escaped inside) ∧
      (∀ c ∈ (ofBytes bs).toList, isControl c = false) ∧
      read? (Utf8.bytes (ofBytes bs)) = some bs) ∧
    ∀ s : String, ofBytes (Utf8.bytes s) = ofString s := by
  refine ⟨fun bs => ⟨⟨body bs, toList_ofBytes bs, escaped_body bs⟩, ?_, read?_ofBytes bs⟩,
    ofBytes_bytes⟩
  intro c hc
  exact isControl_of_mem_ofBytes hc

end Literal

end ProtoSchema
