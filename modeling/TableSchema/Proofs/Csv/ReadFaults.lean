import TableSchema.Csv.Source
import TableSchema.Proofs.Encoding.ByteOrder

namespace TableSchema.Csv

open TableSchema.Encoding

-- The content is no text of its codec.
def ReadFault.isUndecoded : ReadFault → Bool
  | .malformed _ _ | .refused _ _ | .noByteOrderMark | .broken _ => true
  | _ => false

theorem isParseFailure_ofDecoding (path : String) (fault : Encoding.Fault) :
    (ReadFault.ofDecoding path fault).isParseFailure = !fault.isVague := by
  cases fault <;> rfl

/-! Texts -/

section Stream

variable {path : String} {delimiter : Char} {stream : Stream}

-- A text that can be read to its end has rows, unless one of its fields is too large.
theorem fault_rowsOfStream_of_fault_eq_none (h : stream.fault = none) :
    ∀ fault ∈ (rowsOfStream path delimiter stream).fault, fault = .fieldTooLarge path := by
  simp only [rowsOfStream, h]
  split
  · simp
  · rename_i hfault
    cases hfault
  · nofun

-- However a text is decoded, what its rows end in is told as a failure of the file unless
-- they come to the place where the decoder fails without saying which bytes are at fault.
theorem isParseFailure_rowsOfStream_iff :
    (∀ fault ∈ (rowsOfStream path delimiter stream).fault, fault.isParseFailure = true) ↔
      ¬((∃ fault ∈ stream.fault, fault.isVague = true) ∧
        (scan delimiter stream.text).last ≠ none) := by
  cases hlast : (scan delimiter stream.text).last with
  | none => simp [rowsOfStream, hlast, ReadFault.isParseFailure]
  | some last =>
      cases hfault : stream.fault with
      | none => simp [rowsOfStream, hlast, hfault]
      | some fault => simp [rowsOfStream, hlast, hfault, isParseFailure_ofDecoding]

end Stream

/-! Files -/

namespace Source

variable {source : Source}

theorem isUtf8_eq_ok_true_iff : source.isUtf8 = .ok true ↔
    ∃ charset, Charset.ofName? source.encoding = some charset ∧
      (charset = .utf8 ∨ charset = .utf8Signed) := by
  simp only [← Codec.ofName?_eq_charset_iff, isUtf8]
  cases Codec.ofName? source.encoding with
  | none => simp
  | some codec => simp [exists_or, and_or_left]

theorem rows_of_stream {stream : Stream} {delimiter : Char} (hstream : source.stream = .ok stream)
    (hdelimiter : source.delimiter.toList = [delimiter]) :
    source.rows = rowsOfStream source.path delimiter stream := by
  simp only [rows, hstream, hdelimiter]

theorem stream_of_charset {charset : Charset}
    (hcharset : Charset.ofName? source.encoding = some charset) :
    source.stream = .ok (decodeStream (streamCharset charset) source.content) := by
  simp only [stream, Codec.ofName?_eq_charset_iff.mpr hcharset]

theorem stream_of_isUtf8 (h : source.isUtf8 = .ok true) :
    source.stream = .ok (decodeStream .utf8Signed source.content) := by
  obtain ⟨charset, hcharset, rfl | rfl⟩ := isUtf8_eq_ok_true_iff.mp h
  · exact stream_of_charset hcharset
  · exact stream_of_charset hcharset

theorem rows_of_not_delimiter {stream : Stream} (hstream : source.stream = .ok stream)
    (hdelimiter : ∀ delimiter, source.delimiter.toList ≠ [delimiter]) :
    source.rows = ⟨[], some .delimiter⟩ := by
  simp only [rows, hstream]

theorem countRows_eq_error_iff {fault : ReadFault} :
    source.countRows = .error fault ↔ source.rows.fault = some fault := by
  simp only [countRows]
  split
  · rename_i hfault
    simp [hfault]
  · rename_i hfault
    simp [hfault]

-- Why reading comes to something else than a failure of the file. The codec is not one of
-- text, the file is text without a mark where the codec needs one, or a decoder from elsewhere
-- fails without saying which bytes are at fault, behind rows that can be read.
inductive Breaks (source : Source) (delimiter : Char) : Prop
  | binary (hcodec : Codec.ofName? source.encoding = some .binary) : Breaks source delimiter
  | unmarked (hcodec : Codec.ofName? source.encoding = some (.charset .utf16))
      (hmark : Unmarked (source.content.take chunkSize)) : Breaks source delimiter
  | decoder {name : String} (hcodec : Codec.ofName? source.encoding = some (.other name))
      (hvague : ∃ fault ∈ ((source.decoders name).stream source.content).fault,
        fault.isVague = true)
      (hread : (scan delimiter ((source.decoders name).stream source.content).text).last ≠ none) :
      Breaks source delimiter

-- A file that is read so is not in UTF-8.
theorem Breaks.isUtf8_eq {delimiter : Char} (h : source.Breaks delimiter) :
    source.isUtf8 = .ok false := by
  cases h with
  | binary hcodec =>
      simp only [isUtf8, hcodec]
      rfl
  | unmarked hcodec =>
      simp only [isUtf8, hcodec]
      rfl
  | decoder hcodec =>
      simp only [isUtf8, hcodec]
      rfl

theorem breaks_charset_iff {charset : Charset} {delimiter : Char}
    (hcodec : Codec.ofName? source.encoding = some (.charset charset)) :
    source.Breaks delimiter ↔ charset = .utf16 ∧ Unmarked (source.content.take chunkSize) := by
  constructor
  · rintro (hother | ⟨hother, hmark⟩ | hother)
    · cases hcodec.symm.trans hother
    · cases hcodec.symm.trans hother
      exact ⟨rfl, hmark⟩
    · cases hcodec.symm.trans hother
  · rintro ⟨rfl, hmark⟩
    exact .unmarked hcodec hmark

theorem breaks_other_iff {name : String} {delimiter : Char}
    (hcodec : Codec.ofName? source.encoding = some (.other name)) :
    let stream := (source.decoders name).stream source.content
    source.Breaks delimiter ↔
      (∃ fault ∈ stream.fault, fault.isVague = true) ∧ (scan delimiter stream.text).last ≠ none := by
  constructor
  · rintro (hother | hother | ⟨hother, hvague, hread⟩)
    · cases hcodec.symm.trans hother
    · cases hcodec.symm.trans hother
    · cases hcodec.symm.trans hother
      exact ⟨hvague, hread⟩
  · rintro ⟨hvague, hread⟩
    exact .decoder hcodec hvague hread

-- A text that ends for want of a mark has no characters before.
theorem isParseFailure_charset_iff {path : String} {charset : Charset} {delimiter : Char}
    (bytes : List UInt8) :
    (∀ fault ∈ (rowsOfStream path delimiter (decodeStream charset bytes)).fault,
        fault.isParseFailure = true) ↔ ¬(charset = .utf16 ∧ Unmarked (bytes.take chunkSize)) := by
  rw [isParseFailure_rowsOfStream_iff, vague_decodeStream_iff]
  refine not_congr (and_iff_left_of_imp ?_)
  rintro ⟨rfl, hunmarked⟩
  rw [decodeStream_of_unmarked hunmarked]
  nofun

-- What the rows of a file end in is told as a failure of the file, whatever its codec, unless
-- reading breaks.
theorem rows_isParseFailure_iff {delimiter : Char} (hname : isCharsetName source.encoding = true)
    (hdelimiter : source.delimiter.toList = [delimiter]) :
    (∀ fault ∈ source.rows.fault, fault.isParseFailure = true) ↔ ¬source.Breaks delimiter := by
  obtain ⟨codec, hcodec⟩ := Option.isSome_iff_exists.mp hname
  cases codec with
  | binary =>
      have hrows : source.rows = ⟨[], some (.notText source.encoding)⟩ := by
        simp only [rows, stream, hcodec]
      rw [hrows]
      exact iff_of_false (fun h => Bool.false_ne_true (h _ rfl)) (not_not_intro (.binary hcodec))
  | charset charset =>
      have hutf16 : streamCharset charset = .utf16 ↔ charset = .utf16 := by
        cases charset <;> decide
      have hstream := stream_of_charset (Codec.ofName?_eq_charset_iff.mp hcodec)
      rw [rows_of_stream hstream hdelimiter, isParseFailure_charset_iff, breaks_charset_iff hcodec,
        hutf16]
  | other name =>
      have hstream : source.stream = .ok ((source.decoders name).stream source.content) := by
        simp only [stream, hcodec]
      rw [rows_of_stream hstream hdelimiter]
      exact isParseFailure_rowsOfStream_iff.trans (not_congr (breaks_other_iff hcodec).symm)

end Source

end TableSchema.Csv
