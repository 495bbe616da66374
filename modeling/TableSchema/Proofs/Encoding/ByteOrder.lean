import Mathlib
import TableSchema.Encoding.Decode

namespace TableSchema.Encoding

/-! Units -/

-- Where the whole characters end in bytes that begin at a position.
def Decoded.stop (decoded : Decoded) (position : Nat) (bytes : List UInt8) : Nat :=
  decoded.flaw.elim (position + bytes.length) Flaw.position

-- Behind the characters read so far there are more exactly if decoding gets on by a
-- unit.
def GetsOn (reversed : List Char) (position : Nat) (bytes : List UInt8) (decoded : Decoded) : Prop :=
  position ≤ decoded.stop position bytes ∧ ∃ read, decoded.text = reversed.reverse ++ read ∧
    (read ≠ [] ↔ position + 2 ≤ decoded.stop position bytes)

theorem getsOn_stop (bigEndian : Bool) (reversed : List Char) (position : Nat) (byte : UInt8)
    (length : Nat) (reason : Reason) (bytes : List UInt8) :
    GetsOn reversed position bytes
      (decodeUnits.stop bigEndian reversed position byte length reason) := by
  refine ⟨Nat.le_refl _, [], (List.append_nil _).symm, iff_of_false (by simp) ?_⟩
  simp [Decoded.stop, decodeUnits.stop]

theorem GetsOn.behind {c : Char} {reversed : List Char} {position count : Nat}
    (front : List UInt8) {rest : List UInt8} {decoded : Decoded}
    (h : GetsOn (c :: reversed) (position + count) rest decoded) (hfront : front.length = count)
    (hcount : 2 ≤ count) : GetsOn reversed position (front ++ rest) decoded := by
  obtain ⟨hle, read, hread, -⟩ := h
  have hstop : decoded.stop position (front ++ rest) = decoded.stop (position + count) rest := by
    rw [Decoded.stop, Decoded.stop, List.length_append, hfront, Nat.add_assoc]
  rw [GetsOn, hstop]
  refine ⟨by omega, c :: read, ?_, iff_of_true (by simp) (by omega)⟩
  rw [hread, List.reverse_cons, List.append_assoc, List.singleton_append]

theorem decodeUnits_getsOn (bigEndian : Bool) (reversed : List Char) (position : Nat)
    (bytes : List UInt8) :
    GetsOn reversed position bytes (decodeUnits bigEndian reversed position bytes) := by
  fun_induction decodeUnits bigEndian reversed position bytes with
  | case1 reversed position =>
      exact ⟨Nat.le_refl _, [], (List.append_nil _).symm, iff_of_false (by simp) (by simp [Decoded.stop])⟩
  | case2 => exact getsOn_stop ..
  | case3 _ _ a b _ _ c d _ _ _ _ ih => exact ih.behind [a, b, c, d] rfl (by decide)
  | case4 => exact getsOn_stop ..
  | case5 => exact getsOn_stop ..
  | case6 => exact getsOn_stop ..
  | case7 _ _ a b _ _ _ _ ih => exact ih.behind [a, b] rfl (by decide)

theorem text_decodeUnits_ne_nil_iff (bigEndian : Bool) (bytes : List UInt8) :
    (decodeUnits bigEndian [] 0 bytes).text ≠ [] ↔
      2 ≤ (decodeUnits bigEndian [] 0 bytes).stop 0 bytes := by
  obtain ⟨-, read, hread, hiff⟩ := decodeUnits_getsOn bigEndian [] 0 bytes
  rw [hread, List.reverse_nil, List.nil_append, hiff, Nat.zero_add]

/-! Byte order marks -/

-- Bytes that show no byte order although there is text in them, or would be if the
-- order were known: the first flaw in them is only that they end too early.
def Unmarked (bytes : List UInt8) : Prop :=
  let decoded := decodeUnits false [] 0 bytes
  byteOrder? bytes = none ∧ decoded.text ≠ [] ∧
    ∀ flaw ∈ decoded.flaw, flaw.reason.isIncomplete = true

theorem lacksMark_iff {charset : Charset} {bytes : List UInt8} {whole : Nat} :
    lacksMark charset bytes whole = true ↔
      charset = .utf16 ∧ byteOrder? bytes = none ∧ 2 ≤ whole := by
  simp [lacksMark, and_assoc]

theorem decodePart_ne_noByteOrderMark {charset : Charset} (bytes : List UInt8)
    (h : ¬(charset = .utf16 ∧ byteOrder? bytes = none)) :
    decodePart charset bytes ≠ .error .noByteOrderMark := by
  have hmark : ∀ whole, lacksMark charset bytes whole = false := by
    intro whole
    rw [Bool.eq_false_iff]
    intro hlacks
    obtain ⟨hcharset, horder, -⟩ := lacksMark_iff.mp hlacks
    exact h ⟨hcharset, horder⟩
  simp only [decodePart, hmark]
  split
  · nofun
  · split <;> nofun

theorem decodePart_eq_noByteOrderMark_iff {charset : Charset} {bytes : List UInt8} :
    decodePart charset bytes = .error .noByteOrderMark ↔ charset = .utf16 ∧ Unmarked bytes := by
  by_cases h : charset = .utf16 ∧ byteOrder? bytes = none
  · obtain ⟨rfl, horder⟩ := h
    have hdecode : decode .utf16 bytes = decodeUnits false [] 0 bytes := by
      simp only [decode, decodeMarked, horder]
    simp only [Unmarked, horder, true_and, text_decodeUnits_ne_nil_iff, decodePart, hdecode]
    have hlacks : ∀ whole, lacksMark .utf16 bytes whole = decide (2 ≤ whole) := by
      intro whole
      simp [lacksMark, horder]
    cases hflaw : (decodeUnits false [] 0 bytes).flaw with
    | none => simp [Decoded.stop, hflaw, hlacks, Nat.lt_iff_add_one_le]
    | some flaw =>
        cases hreason : flaw.reason.isIncomplete <;>
          simp [Decoded.stop, hflaw, hlacks, hreason, Nat.lt_iff_add_one_le]
  · refine iff_of_false (decodePart_ne_noByteOrderMark bytes h) ?_
    exact fun hunmarked => h ⟨hunmarked.1, hunmarked.2.1⟩

theorem behind_ne_utf16 (charset : Charset) (bytes : List UInt8) :
    charset.behind bytes ≠ .utf16 := by
  cases charset with
  | utf16 =>
      simp only [Charset.behind]
      split <;> decide
  | _ => nofun

-- Only what is read first of a file can show that a mark is missing.
theorem fault_streamFrom_ne {charset : Charset} (h : charset ≠ .utf16) (text : List Char)
    (unfinished : List UInt8) (parts : List (List UInt8)) :
    (streamFrom charset text unfinished parts).fault ≠ some .noByteOrderMark := by
  induction parts generalizing charset text unfinished with
  | nil =>
      simp only [streamFrom]
      split <;> nofun
  | cons part parts ih =>
      have hpart := decodePart_ne_noByteOrderMark (unfinished ++ part) fun hmark => h hmark.1
      simp only [streamFrom]
      split
      · rename_i fault hfault
        rintro hmark
        obtain rfl := Option.some.inj hmark
        exact hpart hfault
      · exact ih (behind_ne_utf16 _ _) _ _

theorem decodeStream_of_unmarked {bytes : List UInt8} (h : Unmarked (bytes.take chunkSize)) :
    decodeStream .utf16 bytes = ⟨[], some .noByteOrderMark⟩ := by
  have hne : bytes ≠ [] := by
    rintro rfl
    exact h.2.1 rfl
  have hpart := decodePart_eq_noByteOrderMark_iff.mpr ⟨rfl, h⟩
  rw [decodeStream, chunks, if_neg hne]
  simp only [streamFrom, List.nil_append, hpart]
  rfl

theorem fault_decodeStream_ne {charset : Charset} {bytes : List UInt8}
    (h : ¬(charset = .utf16 ∧ Unmarked (bytes.take chunkSize))) :
    (decodeStream charset bytes).fault ≠ some .noByteOrderMark := by
  have hpart := mt decodePart_eq_noByteOrderMark_iff.mp h
  rw [decodeStream, chunks]
  split
  · simp only [streamFrom]
    split <;> nofun
  · simp only [streamFrom, List.nil_append]
    split
    · rename_i fault hfault
      intro hmark
      obtain rfl := Option.some.inj hmark
      exact hpart hfault
    · exact fault_streamFrom_ne (behind_ne_utf16 _ _) _ _ _

/-! Faults without a place -/

-- A fault that does not say which bytes are no text.
def Fault.isVague : Fault → Bool
  | .noByteOrderMark | .broken _ => true
  | .malformed _ | .refused _ => false

theorem eq_noByteOrderMark_of_decodePart {charset : Charset} {bytes : List UInt8} {fault : Fault}
    (h : decodePart charset bytes = .error fault) (hvague : fault.isVague = true) :
    fault = .noByteOrderMark := by
  simp only [decodePart] at h
  split at h
  · split at h
    · exact (Except.error.inj h).symm
    · cases h
  · split at h
    · obtain rfl := Except.error.inj h
      cases hvague
    · split at h
      · exact (Except.error.inj h).symm
      · cases h

theorem eq_noByteOrderMark_of_streamFrom {charset : Charset} {text : List Char}
    {unfinished : List UInt8} {parts : List (List UInt8)} {fault : Fault}
    (h : (streamFrom charset text unfinished parts).fault = some fault)
    (hvague : fault.isVague = true) : fault = .noByteOrderMark := by
  induction parts generalizing charset text unfinished with
  | nil =>
      simp only [streamFrom] at h
      split at h
      · cases h
      · obtain rfl := Option.some.inj h
        cases hvague
  | cons part parts ih =>
      simp only [streamFrom] at h
      split at h
      · rename_i found hfound
        obtain rfl := Option.some.inj h
        exact eq_noByteOrderMark_of_decodePart hfound hvague
      · exact ih h

-- In its own character sets a file shows the place of what is no text in it, unless a mark is
-- missing.
theorem vague_decodeStream_iff {charset : Charset} {bytes : List UInt8} :
    (∃ fault ∈ (decodeStream charset bytes).fault, fault.isVague = true) ↔
      charset = .utf16 ∧ Unmarked (bytes.take chunkSize) := by
  constructor
  · rintro ⟨fault, hfault, hvague⟩
    obtain rfl := eq_noByteOrderMark_of_streamFrom hfault hvague
    by_contra h
    exact fault_decodeStream_ne h hfault
  · rintro ⟨rfl, hunmarked⟩
    rw [decodeStream_of_unmarked hunmarked]
    exact ⟨.noByteOrderMark, rfl, rfl⟩

end TableSchema.Encoding
