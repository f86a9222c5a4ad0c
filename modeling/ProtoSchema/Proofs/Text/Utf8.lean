/-
Strings and their UTF-8 bytes.

Reading the bytes of a text gives back its characters (`pieces_bytes`), so different strings
have different bytes; and whatever bytes are read, the pieces make them up again
(`flatMap_bytes_pieces`), so nothing is lost at bytes that belong to no character. Both facts
are arithmetic on code points, one case for each length of a character.

Bytes also keep the order: of two characters the smaller one has the smaller bytes, and the
difference shows before either of them ends (`encode_append_lt`). So the order of strings by
code points is the order of their bytes.
-/
import Mathlib.Data.String.Basic
import ProtoSchema.Text.Utf8

set_option autoImplicit false

namespace ProtoSchema

namespace Utf8

/-! ## Bytes and code points as numbers -/

theorem toNat_byte {n : Nat} (h : n < 256) : (UInt8.ofNat n).toNat = n :=
  UInt8.toNat_ofNat_of_lt' h

theorem byte_eq {b : UInt8} {n : Nat} (h : b.toNat = n) : UInt8.ofNat n = b := by
  rw [← h, UInt8.ofNat_toNat]

/-- A character is no surrogate. -/
theorem toNat_valid (c : Char) :
    c.toNat < 0xD800 ∨ 0xDFFF < c.toNat ∧ c.toNat < 0x110000 := c.valid

theorem toNat_ofNat {n : Nat} (h : n.isValidChar) : (Char.ofNat n).toNat = n := by
  rw [Char.ofNat, dif_pos h]
  rfl

theorem isTail_iff {b : UInt8} : isTail b = true ↔ 0x80 ≤ b.toNat ∧ b.toNat ≤ 0xBF := by
  simp only [isTail, Bool.and_eq_true, decide_eq_true_eq]

/-- Six bits behind the mark of a tail byte are a tail byte. -/
theorem isTail_tail (n : Nat) : isTail (UInt8.ofNat (0x80 + n % 64)) = true := by
  rw [isTail_iff, toNat_byte (by omega)]
  omega

theorem tailBits_tail (n : Nat) : tailBits (UInt8.ofNat (0x80 + n % 64)) = n % 64 := by
  rw [tailBits, toNat_byte (by omega)]
  omega

/-- What the byte after a lead byte may be. Four lead bytes narrow it, so that no character has a
longer encoding than needed and none is a surrogate or too large. -/
theorem isSecond_iff {lead b : UInt8} : isSecond lead b = true ↔
    isTail b = true ∧ (lead.toNat = 0xE0 → 0xA0 ≤ b.toNat) ∧
      (lead.toNat = 0xED → b.toNat ≤ 0x9F) ∧ (lead.toNat = 0xF0 → 0x90 ≤ b.toNat) ∧
      (lead.toNat = 0xF4 → b.toNat ≤ 0x8F) := by
  rw [isTail_iff]
  unfold isSecond
  simp only
  split
  case h_5 hE0 hED hF0 hF4 =>
    rw [isTail_iff]
    exact ⟨fun h => ⟨h, (absurd · hE0), (absurd · hED), (absurd · hF0), (absurd · hF4)⟩, And.left⟩
  all_goals
    simp only [Bool.and_eq_true, decide_eq_true_eq]
    omega

/-- The lead byte says how many bytes its character has. -/
theorem lengthOfLead_eq (b : UInt8) :
    (lengthOfLead b = 1 ↔ b.toNat < 0x80) ∧
    (lengthOfLead b = 2 ↔ 0xC2 ≤ b.toNat ∧ b.toNat < 0xE0) ∧
    (lengthOfLead b = 3 ↔ 0xE0 ≤ b.toNat ∧ b.toNat < 0xF0) ∧
    (lengthOfLead b = 4 ↔ 0xF0 ≤ b.toNat ∧ b.toNat < 0xF5) := by
  unfold lengthOfLead
  simp only
  split_ifs <;> simp <;> omega

/-! ## Reading what was written -/

/-- **The encoding of a character is read as that character**, whatever follows. The cases are the
four lengths. -/
theorem next_encode (c : Char) (rest : List UInt8) :
    ∃ lead tail, encode c = lead :: tail ∧ next lead (tail ++ rest) = (.char c, rest) := by
  have hvalid := toNat_valid c
  have hc := Char.ofNat_toNat c
  unfold encode
  simp only
  generalize c.toNat = n at hvalid hc
  -- one case for each length: the lead byte tells it, and the bits add up to the code point again
  split
  · refine ⟨_, _, rfl, ?_⟩
    have h0 : (UInt8.ofNat n).toNat = n := toNat_byte (by omega)
    have hlen := (lengthOfLead_eq (UInt8.ofNat n)).1.mpr (by omega)
    simp only [next, hlen, h0, hc, List.nil_append]
  split
  · refine ⟨_, _, rfl, ?_⟩
    have h0 : (UInt8.ofNat (0xC0 + n / 64)).toNat = 0xC0 + n / 64 := toNat_byte (by omega)
    have hlen := (lengthOfLead_eq (UInt8.ofNat (0xC0 + n / 64))).2.1.mpr (by omega)
    have hv : (0xC0 + n / 64) % 32 * 64 + n % 64 = n := by omega
    simp only [next, hlen, h0, isTail_tail, tailBits_tail, hv, hc, List.cons_append,
      List.nil_append, if_true]
  split
  · refine ⟨_, _, rfl, ?_⟩
    have h0 : (UInt8.ofNat (0xE0 + n / 4096)).toNat = 0xE0 + n / 4096 := toNat_byte (by omega)
    have h1 : (UInt8.ofNat (0x80 + n / 64 % 64)).toNat = 0x80 + n / 64 % 64 :=
      toNat_byte (by omega)
    have hlen := (lengthOfLead_eq (UInt8.ofNat (0xE0 + n / 4096))).2.2.1.mpr (by omega)
    have hsecond : isSecond (UInt8.ofNat (0xE0 + n / 4096)) (UInt8.ofNat (0x80 + n / 64 % 64)) =
        true := by
      rw [isSecond_iff, h0, h1]
      exact ⟨isTail_tail _, by omega, by omega, by omega, by omega⟩
    have hv : (0xE0 + n / 4096) % 16 * 4096 + n / 64 % 64 * 64 + n % 64 = n := by omega
    simp only [next, hlen, h0, hsecond, isTail_tail, tailBits_tail, hv, hc, List.cons_append,
      List.nil_append, if_true]
  · refine ⟨_, _, rfl, ?_⟩
    have h0 : (UInt8.ofNat (0xF0 + n / 262144)).toNat = 0xF0 + n / 262144 :=
      toNat_byte (by omega)
    have h1 : (UInt8.ofNat (0x80 + n / 4096 % 64)).toNat = 0x80 + n / 4096 % 64 :=
      toNat_byte (by omega)
    have hlen := (lengthOfLead_eq (UInt8.ofNat (0xF0 + n / 262144))).2.2.2.mpr (by omega)
    have hsecond : isSecond (UInt8.ofNat (0xF0 + n / 262144))
        (UInt8.ofNat (0x80 + n / 4096 % 64)) = true := by
      rw [isSecond_iff, h0, h1]
      exact ⟨isTail_tail _, by omega, by omega, by omega, by omega⟩
    have hv : (0xF0 + n / 262144) % 8 * 262144 + n / 4096 % 64 * 4096 + n / 64 % 64 * 64 +
        n % 64 = n := by omega
    simp only [next, hlen, h0, hsecond, isTail_tail, tailBits_tail, hv, hc, List.cons_append,
      List.nil_append, if_true]

/-- An encoded character at the front is the first piece. -/
theorem pieces_encode_append (c : Char) (rest : List UInt8) :
    pieces (encode c ++ rest) = .char c :: pieces rest := by
  obtain ⟨lead, tail, hencode, hnext⟩ := next_encode c rest
  rw [hencode, List.cons_append, pieces, hnext]

/-- **The bytes of a text are read as its characters.** -/
theorem pieces_flatMap_encode (cs : List Char) : pieces (cs.flatMap encode) = cs.map .char := by
  induction cs with
  | nil => rw [List.flatMap_nil, pieces, List.map_nil]
  | cons c cs ih => rw [List.flatMap_cons, pieces_encode_append, ih, List.map_cons]

/-- The pieces of a string are its characters. -/
theorem pieces_bytes (s : String) : pieces (bytes s) = s.toList.map .char :=
  pieces_flatMap_encode s.toList

theorem mapM_char?_map (cs : List Char) : (cs.map Piece.char).mapM Piece.char? = some cs := by
  induction cs with
  | nil => rfl
  | cons c cs ih =>
    rw [List.map_cons, List.mapM_cons, ih]
    rfl

/-- **A text is read back from its bytes.** -/
theorem string?_bytes (s : String) : string? (bytes s) = some s := by
  rw [string?, pieces_bytes, mapM_char?_map, Option.map_some, String.ofList_toList]

/-! ## Pieces cover the bytes -/

/-- The bytes of a piece. -/
def Piece.bytes : Piece → List UInt8
  | .char c => encode c
  | .invalid bs => bs

theorem encode_ofNat_one {a : UInt8} (ha : a.toNat < 0x80) : encode (Char.ofNat a.toNat) = [a] := by
  have hn : (Char.ofNat a.toNat).toNat = a.toNat := toNat_ofNat (.inl (by omega))
  simp only [encode, hn]
  rw [if_pos ha, UInt8.ofNat_toNat]

/-- Two bytes that fit together are the encoding of the character they make. -/
theorem encode_ofNat_two {a b : UInt8} (ha : 0xC2 ≤ a.toNat ∧ a.toNat < 0xE0)
    (hb : isTail b = true) :
    encode (Char.ofNat (a.toNat % 32 * 64 + tailBits b)) = [a, b] := by
  rw [isTail_iff] at hb
  unfold tailBits
  have hn := toNat_ofNat (n := a.toNat % 32 * 64 + b.toNat % 64) (.inl (by omega))
  simp only [encode, hn]
  rw [if_neg (by omega), if_pos (by omega), byte_eq (b := a) (by omega),
    byte_eq (b := b) (by omega)]

/-- So are three. Here the second byte keeps surrogates and short characters out. -/
theorem encode_ofNat_three {a b c : UInt8} (ha : 0xE0 ≤ a.toNat ∧ a.toNat < 0xF0)
    (hb : isSecond a b = true) (hc : isTail c = true) :
    encode (Char.ofNat (a.toNat % 16 * 4096 + tailBits b * 64 + tailBits c)) = [a, b, c] := by
  rw [isSecond_iff, isTail_iff] at hb
  rw [isTail_iff] at hc
  obtain ⟨hb, hE0, hED, -, -⟩ := hb
  unfold tailBits
  have hn := toNat_ofNat (n := a.toNat % 16 * 4096 + b.toNat % 64 * 64 + c.toNat % 64)
    (by unfold Nat.isValidChar; omega)
  simp only [encode, hn]
  rw [if_neg (by omega), if_neg (by omega), if_pos (by omega), byte_eq (b := a) (by omega),
    byte_eq (b := b) (by omega), byte_eq (b := c) (by omega)]

/-- So are four, where it also keeps too large characters out. -/
theorem encode_ofNat_four {a b c d : UInt8} (ha : 0xF0 ≤ a.toNat ∧ a.toNat < 0xF5)
    (hb : isSecond a b = true) (hc : isTail c = true) (hd : isTail d = true) :
    encode (Char.ofNat (a.toNat % 8 * 262144 + tailBits b * 4096 + tailBits c * 64 +
      tailBits d)) = [a, b, c, d] := by
  rw [isSecond_iff, isTail_iff] at hb
  rw [isTail_iff] at hc hd
  obtain ⟨hb, -, -, hF0, hF4⟩ := hb
  unfold tailBits
  have hn := toNat_ofNat (n := a.toNat % 8 * 262144 + b.toNat % 64 * 4096 + c.toNat % 64 * 64 +
    d.toNat % 64) (by unfold Nat.isValidChar; omega)
  simp only [encode, hn]
  rw [if_neg (by omega), if_neg (by omega), if_neg (by omega), byte_eq (b := a) (by omega),
    byte_eq (b := b) (by omega), byte_eq (b := c) (by omega), byte_eq (b := d) (by omega)]

/-- **A piece and what is left are the bytes that were there**, also if the piece is no character.
-/
theorem bytes_next_append (lead : UInt8) (rest : List UInt8) :
    (next lead rest).1.bytes ++ (next lead rest).2 = lead :: rest := by
  obtain ⟨h1, h2, h3, h4⟩ := lengthOfLead_eq lead
  unfold next
  -- where a character is read its bytes are those read; a run that is none is kept as it is
  split
  case h_1 hlen =>
    rw [Piece.bytes, encode_ofNat_one (h1.mp hlen)]
    rfl
  case h_2 hlen =>
    split
    case isTrue hb =>
      rw [Piece.bytes, encode_ofNat_two (h2.mp hlen) hb]
      rfl
    case isFalse => rfl
  case h_3 hlen =>
    split
    case isTrue hb =>
      split
      · split
        case isTrue hc =>
          rw [Piece.bytes, encode_ofNat_three (h3.mp hlen) hb hc]
          rfl
        case isFalse => rfl
      · rfl
    case isFalse => rfl
  case h_4 hlen =>
    split
    case isTrue hb =>
      split
      · split
        case isTrue hc =>
          split
          · split
            case isTrue hd =>
              rw [Piece.bytes, encode_ofNat_four (h4.mp hlen) hb hc hd]
              rfl
            case isFalse => rfl
          · rfl
        case isFalse => rfl
      · rfl
    case isFalse => rfl
  case h_5 => rfl

/-- **The pieces of a byte list make it up.** -/
theorem flatMap_bytes_pieces (bs : List UInt8) : (pieces bs).flatMap Piece.bytes = bs := by
  fun_induction pieces bs with
  | case1 => rfl
  | case2 lead rest ih => rw [List.flatMap_cons, ih, bytes_next_append]

/-! ## Order -/

/-- The encoding keeps the order of characters, whatever follows them. -/
theorem encode_append_lt {c d : Char} (h : c < d) (r s : List UInt8) :
    encode c ++ r < encode d ++ s := by
  have hlt : c.toNat < d.toNat := h
  have hc := toNat_valid c
  have hd := toNat_valid d
  unfold encode
  simp only
  generalize c.toNat = m at hc hlt
  generalize d.toNat = n at hd hlt
  -- both have one to four bytes, and a longer encoding has a greater lead byte
  split_ifs
  all_goals
    simp only [List.cons_append, List.nil_append, List.cons_lt_cons_iff, UInt8.lt_iff_toNat_lt,
      ← UInt8.toNat_inj]
    simp (disch := omega) only [toNat_byte]
    omega

/-- **Strings are ordered as their bytes are.** -/
theorem bytes_lt_bytes {s t : String} (h : s < t) : bytes s < bytes t := by
  rw [String.lt_iff_toList_lt] at h
  unfold bytes
  generalize s.toList = cs at h
  generalize t.toList = ds at h
  induction h with
  | @nil d ds =>
    obtain ⟨lead, tail, hencode, -⟩ := next_encode d []
    rw [List.flatMap_nil, List.flatMap_cons, hencode]
    exact List.nil_lt_cons ..
  -- the first characters that differ decide, and their encodings compare alike
  | rel h =>
    rw [List.flatMap_cons, List.flatMap_cons]
    exact encode_append_lt h _ _
  | cons h ih =>
    rw [List.flatMap_cons, List.flatMap_cons]
    exact List.append_left_lt ih

end Utf8

end ProtoSchema
