import TableSchema.Encoding.Decode
import TableSchema.Proofs.Text.WellFormed

namespace TableSchema.Encoding

open TableSchema.Text
open TableSchema.Text.Utf8

theorem flatten_chunks (bytes : List UInt8) : (chunks bytes).flatten = bytes := by
  fun_induction chunks bytes with
  | case1 => rfl
  | case2 bytes _ ih => rw [List.flatten_cons, ih, List.take_append_drop]

theorem chunks_of_ne_nil {bytes : List UInt8} (h : bytes ≠ []) :
    chunks bytes = bytes.take chunkSize :: chunks (bytes.drop chunkSize) := by
  rw [chunks, if_neg h]

-- A part of a text ends in the beginning of a character at most. What stands in
-- front of it in the bytes does not matter.
theorem decodePart_of_decodeUtf8 {charset : Charset} {skipped part more : List UInt8}
    {text : List Char} (hcharset : charset ≠ .utf16)
    (hdecode : decode charset (skipped ++ part) = decodeUtf8 part) (h : part ++ more = encode text) :
    ∃ front back rest, text = front ++ back ∧ rest ++ more = encode back ∧
      (rest = [] ∨ Stuck rest) ∧ decodePart charset (skipped ++ part) = .ok ⟨front, rest⟩ := by
  have hmark : ∀ bytes whole, lacksMark charset bytes whole = false := by
    intro bytes whole
    simp only [lacksMark, beq_eq_false_iff_ne.mpr hcharset, Bool.false_and]
  obtain ⟨front, rest, rfl, hrest⟩ := exists_encode_append part
  obtain ⟨back, rfl, hback⟩ := exists_eq_append_of_encode ((List.append_assoc _ _ _).symm.trans h)
  refine ⟨front, back, rest, rfl, hback.symm, hrest, ?_⟩
  simp only [decodePart, hdecode, decodeUtf8, hmark]
  rcases hrest with rfl | hstuck
  · simp [decode_encode]
  · -- More bytes make the character whole, so that it has only ended too early.
    obtain ⟨lead, rest, rfl, hread⟩ := hstuck.exists_truncated ⟨back, hback⟩
    rw [decode_encode_append front hread]
    have hrest : (skipped ++ (encode front ++ lead :: rest)).drop
        ((skipped ++ (encode front ++ lead :: rest)).length - (rest.length + 1)) = lead :: rest := by
      rw [← List.append_assoc, List.length_append, List.length_cons, Nat.add_sub_cancel,
        List.drop_left]
    simp only [Option.map_some, Reason.isIncomplete, Bool.not_true, Bool.false_eq_true, if_false,
      hrest]

theorem streamFrom_utf8 (read : List Char) {unfinished : List UInt8} {parts : List (List UInt8)}
    {text : List Char} (hunfinished : unfinished = [] ∨ Stuck unfinished)
    (h : unfinished ++ parts.flatten = encode text) :
    streamFrom .utf8 read unfinished parts = ⟨read ++ text, none⟩ := by
  induction parts generalizing read unfinished text with
  | nil =>
      rw [List.flatten_nil, List.append_nil] at h
      rcases hunfinished with rfl | hstuck
      · obtain rfl : [] = text := encode_injective h
        rw [List.append_nil]
        rfl
      · have hill := hstuck.not_wellFormed List.prefix_rfl hstuck.ne_nil
        exact absurd ⟨text, h.symm⟩ hill
  | cons part parts ih =>
      rw [List.flatten_cons, ← List.append_assoc] at h
      have hdecode : decode .utf8 ([] ++ (unfinished ++ part)) = decodeUtf8 (unfinished ++ part) := rfl
      obtain ⟨front, back, rest, rfl, hback, hrest, hpart⟩ :=
        decodePart_of_decodeUtf8 (by decide) hdecode h
      rw [List.nil_append] at hpart
      simp only [streamFrom, hpart, Charset.behind]
      rw [ih _ hrest hback, List.append_assoc]

theorem encode_byteOrderMark : encode [byteOrderMark] = utf8Mark := by decide

theorem decodeSigned_mark (part : List UInt8) : decodeSigned (utf8Mark ++ part) = decodeUtf8 part := by
  rw [decodeSigned, if_pos (List.isPrefixOf_iff_prefix.mpr (List.prefix_append _ _))]
  rfl

-- Bytes that are read first and begin with no mark are not taken for one.
theorem decodeSigned_of_not_prefix {part : List UInt8} (hmark : ¬utf8Mark <+: part)
    (hpart : 3 ≤ part.length ∨ WellFormed part) : decodeSigned part = decodeUtf8 part := by
  rw [decodeSigned, if_neg (by rwa [List.isPrefixOf_iff_prefix])]
  split
  · rename_i hbegun
    obtain ⟨read, rfl⟩ : WellFormed part := hpart.resolve_left (by omega)
    obtain ⟨more, hmore⟩ := List.isPrefixOf_iff_prefix.mp hbegun.2
    rw [← encode_byteOrderMark] at hmore
    obtain ⟨back, hback, -⟩ := exists_eq_append_of_encode hmore
    cases read with
    | nil => rfl
    | cons c read =>
        obtain ⟨rfl, hread⟩ := List.cons.inj hback
        obtain ⟨rfl, -⟩ := List.nil_eq_append_iff.mp hread
        exact absurd (encode_byteOrderMark ▸ List.prefix_rfl) hmark
  · rfl

-- What is read first of a file is decoded like any other part, behind its mark.
theorem exists_first_part (text : List Char) :
    ∃ skipped part, (encode text).take chunkSize = skipped ++ part ∧
      decode .utf8Signed (skipped ++ part) = decodeUtf8 part ∧
      part ++ (encode text).drop chunkSize = encode (dropByteOrderMark text) := by
  by_cases hmark : utf8Mark <+: encode text
  · obtain ⟨bytes, hbytes⟩ := hmark
    rw [← encode_byteOrderMark] at hbytes
    obtain ⟨others, rfl, rfl⟩ := exists_eq_append_of_encode hbytes
    refine ⟨utf8Mark, (encode others).take (chunkSize - utf8Mark.length), ?_, decodeSigned_mark _, ?_⟩
    · rw [encode_append, encode_byteOrderMark, List.take_append,
        List.take_of_length_le (by decide)]
    · rw [encode_append, encode_byteOrderMark, List.drop_append, List.drop_of_length_le (by decide),
        List.nil_append, List.take_append_drop]
      simp [dropByteOrderMark]
  · refine ⟨[], (encode text).take chunkSize, rfl, ?_, ?_⟩
    · refine decodeSigned_of_not_prefix (fun h => hmark (h.trans (List.take_prefix _ _))) ?_
      by_cases hlength : 3 ≤ (encode text).length
      · left
        rw [List.nil_append, List.length_take, chunkSize]
        omega
      · right
        rw [List.nil_append, List.take_of_length_le (by rw [chunkSize]; omega)]
        exact ⟨text, rfl⟩
    · rw [List.take_append_drop]
      cases text with
      | nil => rfl
      | cons c text =>
          have hc : c ≠ byteOrderMark := by
            rintro rfl
            exact hmark (encode_byteOrderMark ▸ List.prefix_append _ (encode text))
          simp only [dropByteOrderMark, beq_eq_false_iff_ne.mpr hc, Bool.false_eq_true, if_false]

-- A file in UTF-8 is read as the text it is written from, without a mark in front.
theorem decodeStream_encode (text : List Char) :
    decodeStream .utf8Signed (encode text) = ⟨dropByteOrderMark text, none⟩ := by
  by_cases hempty : encode text = []
  · obtain rfl : text = [] := encode_injective hempty
    rw [decodeStream, hempty, chunks, if_pos rfl]
    rfl
  · obtain ⟨skipped, part, hfirst, hdecode, hall⟩ := exists_first_part text
    rw [← flatten_chunks ((encode text).drop chunkSize)] at hall
    obtain ⟨front, back, rest, hkept, hback, hrest, hpart⟩ :=
      decodePart_of_decodeUtf8 (by decide) hdecode hall
    rw [decodeStream, chunks_of_ne_nil hempty, hfirst]
    simp only [streamFrom, List.nil_append, hpart, Charset.behind]
    rw [streamFrom_utf8 _ hrest hback, hkept]

end TableSchema.Encoding
