import TableSchema.Proofs.Text.Characters
import TableSchema.Proofs.Text.WellFormed
import TableSchema.Uri

namespace TableSchema.Uri

open TableSchema.Text

/-! Escaped text -/

-- Characters that can stand for their own byte.
def isLiteral (c : Char) : Bool :=
  isAsciiLetter c || isAsciiDigit c || c == '-' || c == '.' || c == '_' || c == '~' || c == '/'

-- A hexadecimal digit in either letter case.
def IsHex (c : Char) (n : Nat) : Prop :=
  c = Nat.digitChar n ∨ c = (Nat.digitChar n).toUpper

instance (c : Char) (n : Nat) : Decidable (IsHex c n) :=
  inferInstanceAs (Decidable (c = Nat.digitChar n ∨ c = (Nat.digitChar n).toUpper))

-- Bytes as they are written in a URI. Each byte can be an escape, and some can be a
-- character.
inductive Escapes : List UInt8 → List Char → Prop
  | nil : Escapes [] []
  | literal {c : Char} {bytes : List UInt8} {cs : List Char} (hc : isLiteral c = true)
      (hrest : Escapes bytes cs) : Escapes (c.toNat.toUInt8 :: bytes) (c :: cs)
  | escape {byte : UInt8} {high low : Char} {bytes : List UInt8} {cs : List Char}
      (hhigh : IsHex high (byte.toNat / 16)) (hlow : IsHex low (byte.toNat % 16))
      (hrest : Escapes bytes cs) : Escapes (byte :: bytes) ('%' :: high :: low :: cs)

-- The characters that an escaped text can have.
def IsEscapedText (cs : List Char) : Prop :=
  ∀ c ∈ cs, isLiteral c = true ∨ c = '%'

theorem toNat_of_isLiteral {c : Char} (h : isLiteral c = true) :
    0x2D ≤ c.toNat ∧ c.toNat ≤ 0x39 ∨ 0x41 ≤ c.toNat ∧ c.toNat ≤ 0x5A ∨ c.toNat = 0x5F ∨
      0x61 ≤ c.toNat ∧ c.toNat ≤ 0x7A ∨ c.toNat = 0x7E := by
  simp only [isLiteral, Bool.or_eq_true, beq_iff_eq, isAsciiLetter_iff, isAsciiDigit_iff] at h
  rcases h with (((((h | h) | rfl) | rfl) | rfl) | rfl) | rfl
  · omega
  · omega
  all_goals decide

theorem isLiteral_of_isHex {c : Char} {n : Nat} (hn : n < 16) (h : IsHex c n) :
    isLiteral c = true := by
  have hall : ∀ n : Fin 16, isLiteral (Nat.digitChar n) = true ∧
      isLiteral (Nat.digitChar n).toUpper = true := by decide
  rcases h with rfl | rfl
  · exact (hall ⟨n, hn⟩).1
  · exact (hall ⟨n, hn⟩).2

theorem hexValue?_of_isHex {c : Char} {n : Nat} (hn : n < 16) (h : IsHex c n) :
    hexValue? c.toNat.toUInt8 = some n := by
  have hall : ∀ n : Fin 16, hexValue? (Nat.digitChar n).toNat.toUInt8 = some n.val ∧
      hexValue? (Nat.digitChar n).toUpper.toNat.toUInt8 = some n.val := by decide
  rcases h with rfl | rfl
  · exact (hall ⟨n, hn⟩).1
  · exact (hall ⟨n, hn⟩).2

theorem Escapes.isEscapedText {bytes : List UInt8} {cs : List Char} (h : Escapes bytes cs) :
    IsEscapedText cs := by
  induction h with
  | nil => simp [IsEscapedText]
  | literal hc _ ih => exact List.forall_mem_cons.mpr ⟨.inl hc, ih⟩
  | @escape byte high low bytes cs hhigh hlow _ ih =>
      have hbyte := byte.toNat_lt
      have hn : isLiteral high = true := isLiteral_of_isHex (by omega) hhigh
      have hm : isLiteral low = true := isLiteral_of_isHex (by omega) hlow
      intro c hc
      simp only [List.mem_cons] at hc
      rcases hc with rfl | rfl | rfl | hc
      · exact .inr rfl
      · exact .inl hn
      · exact .inl hm
      · exact ih c hc

theorem IsEscapedText.notMem {cs : List Char} (hcs : IsEscapedText cs) {d : Char}
    (hd : isLiteral d = false) (hpercent : d ≠ '%') : d ∉ cs := by
  intro hmem
  rcases hcs d hmem with h | h
  · rw [hd] at h
    cases h
  · exact hpercent h

/-! Decoding -/

theorem encodeChar_of_isLiteral {c : Char} (h : isLiteral c = true) :
    Utf8.encodeChar c = [c.toNat.toUInt8] := by
  have hcode := toNat_of_isLiteral h
  rw [Utf8.encodeChar]
  exact if_pos (by omega)

theorem ne_percent_of_isLiteral {c : Char} (h : isLiteral c = true) :
    c.toNat.toUInt8 ≠ 0x25 := by
  have hcode := toNat_of_isLiteral h
  intro heq
  have hpercent : c.toNat = 0x25 := by
    rw [← Utf8.toNat_toUInt8 (show c.toNat < 0x100 by omega), heq]
    rfl
  omega

theorem decodeEscapesFrom_literal {byte : UInt8} (h : byte ≠ 0x25) (rest : List UInt8) :
    decodeEscapesFrom 0 (byte :: rest) = byte :: decodeEscapesFrom 0 rest := by
  rw [decodeEscapesFrom, if_neg h]

theorem decodeEscapesFrom_escape {high low decoded : UInt8} {rest : List UInt8}
    (h : escaped? (high :: low :: rest) = some decoded) :
    decodeEscapesFrom 0 (0x25 :: high :: low :: rest) = decoded :: decodeEscapesFrom 0 rest := by
  rw [decodeEscapesFrom, if_pos rfl, h]
  simp only [decodeEscapesFrom]

-- The bytes are read back, however they have been written.
theorem decodeEscapes_encode {bytes : List UInt8} {cs : List Char} (h : Escapes bytes cs) :
    decodeEscapes (Utf8.encode cs) = bytes := by
  rw [decodeEscapes]
  induction h with
  | nil => rfl
  | @literal c bytes cs hc hrest ih =>
      rw [Utf8.encode_cons, encodeChar_of_isLiteral hc, List.singleton_append,
        decodeEscapesFrom_literal (ne_percent_of_isLiteral hc), ih]
  | @escape byte high low bytes cs hhigh hlow hrest ih =>
      have hbyte := byte.toNat_lt
      have hn : byte.toNat / 16 < 16 := by omega
      have hm : byte.toNat % 16 < 16 := by omega
      have hpercent : Utf8.encodeChar '%' = [0x25] := by decide
      have hdecoded : escaped? (high.toNat.toUInt8 :: low.toNat.toUInt8 :: Utf8.encode cs) =
          some byte := by
        have hvalue : 16 * (byte.toNat / 16) + byte.toNat % 16 = byte.toNat := by omega
        simp only [escaped?, hexValue?_of_isHex hn hhigh, hexValue?_of_isHex hm hlow,
          Option.bind_eq_bind, Option.bind_some, hvalue, Utf8.toUInt8_eq byte rfl]
        rfl
      rw [Utf8.encode_cons, Utf8.encode_cons, Utf8.encode_cons, hpercent,
        encodeChar_of_isLiteral (isLiteral_of_isHex hn hhigh),
        encodeChar_of_isLiteral (isLiteral_of_isHex hm hlow), List.singleton_append,
        List.singleton_append, List.singleton_append, decodeEscapesFrom_escape hdecoded, ih]

@[simp] theorem unescape_nil : unescape [] = [] := rfl

theorem unescape_cons {c : Char} (h : isLiteral c = true) (cs : List Char) :
    unescape (c :: cs) = c :: unescape cs := by
  have hcode := toNat_of_isLiteral h
  have hvalue : c.toNat.toUInt8.toNat = c.toNat := Utf8.toNat_toUInt8 (by omega)
  have hsmall : c.toNat.toUInt8 < 0x80 := by
    rw [UInt8.lt_iff_toNat_lt, hvalue]
    show c.toNat < 0x80
    omega
  have hread : ∀ rest, Utf8.readChar c.toNat.toUInt8 rest = .char c 1 := by
    intro rest
    rw [Utf8.readChar, if_pos hsmall, hvalue, Char.ofNat_toNat]
  rw [unescape, decodeEscapes, Utf8.encode_cons, encodeChar_of_isLiteral h, List.singleton_append,
    decodeEscapesFrom_literal (ne_percent_of_isLiteral h), Utf8.decodeLossy, Utf8.decodeLossyFrom]
  simp only [hread]
  rfl

theorem unescape_of_escapes {text cs : List Char} (h : Escapes (Utf8.encode text) cs) :
    unescape cs = text := by
  rw [unescape, decodeEscapes_encode h, Utf8.decodeLossy_encode]

end TableSchema.Uri
