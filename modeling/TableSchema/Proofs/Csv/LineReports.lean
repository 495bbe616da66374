import TableSchema.Proofs.Csv.ReadFaults
import TableSchema.Proofs.Encoding.Streaming

namespace TableSchema.Csv

open TableSchema.Encoding
open TableSchema.Text.Utf8

/-! Reports on lines -/

theorem lineMessage?_of_wellFormed {line : List UInt8} (h : WellFormed line) (number : Nat) :
    lineMessage? line number = none := by
  rw [lineMessage?, fault_decode_eq_none_iff.mpr h]
  rfl

theorem lineMessage?_of_not_wellFormed {line : List UInt8} (h : ¬WellFormed line) (number : Nat) :
    lineMessage? line number = some (utf8Message number (wellFormedLength line + 1)) := by
  cases hfault : (decode line).fault with
  | none => exact absurd (fault_decode_eq_none_iff.mp hfault) h
  | some fault => rw [lineMessage?, hfault, Option.map_some, position_eq_wellFormedLength hfault]

-- The line feed at its end makes no difference to a line.
theorem lineMessage?_append_newline (line : List UInt8) (number : Nat) :
    lineMessage? (line ++ [0x0A]) number = lineMessage? line number := by
  have hiff : WellFormed (line ++ [0x0A]) ↔ WellFormed line :=
    wellFormed_append_newline.trans (and_iff_left ⟨[], rfl⟩)
  by_cases h : WellFormed line
  · rw [lineMessage?_of_wellFormed h, lineMessage?_of_wellFormed (hiff.mpr h)]
  · rw [lineMessage?_of_not_wellFormed h, lineMessage?_of_not_wellFormed (mt hiff.mp h),
      wellFormedLength_append_newline h]

/-! Lines of bytes -/

theorem byteLinesFrom_eq_append (line : List UInt8) (lines : List (List UInt8))
    (bytes : List UInt8) :
    byteLinesFrom line lines bytes = lines.reverse ++ byteLinesFrom line [] bytes := by
  induction bytes generalizing line lines with
  | nil =>
      simp only [byteLinesFrom]
      split <;> simp
  | cons byte bytes ih =>
      simp only [byteLinesFrom]
      split
      · rw [ih, ih [] [_]]
        simp
      · exact ih _ _

theorem modifyHead_nil_append (pieces : List (List UInt8)) :
    pieces.modifyHead ([].reverse ++ ·) = pieces := by
  cases pieces <;> rfl

-- Lines with the line feeds at their ends are reported like the pieces between the
-- line feeds. An empty piece behind the last line feed is no line, and there is
-- nothing to report in it.
theorem filterMap_byteLinesFrom (line bytes : List UInt8) (number : Nat) :
    ((byteLinesFrom line [] bytes).zipIdx number).filterMap (fun entry =>
        lineMessage? entry.1 entry.2) =
      (((bytes.splitOn 0x0A).modifyHead (line.reverse ++ ·)).zipIdx number).filterMap fun entry =>
        lineMessage? entry.1 entry.2 := by
  induction bytes generalizing line number with
  | nil =>
      rw [byteLinesFrom, List.splitOn_nil, List.modifyHead_cons, List.append_nil]
      split
      · rename_i hempty
        obtain rfl := List.isEmpty_iff.mp hempty
        rfl
      · rfl
  | cons byte bytes ih =>
      rw [byteLinesFrom, List.splitOn_cons_eq_if_modifyHead]
      by_cases hbyte : byte = 0x0A
      · rw [if_pos hbyte, if_pos (beq_iff_eq.mpr hbyte), byteLinesFrom_eq_append, hbyte]
        have hrest := ih [] (number + 1)
        rw [modifyHead_nil_append] at hrest
        simp only [List.reverse_cons, List.reverse_nil, List.nil_append, List.singleton_append,
          List.modifyHead_cons, List.append_nil, List.zipIdx_cons, List.filterMap_cons,
          lineMessage?_append_newline, hrest]
      · rw [if_neg hbyte, if_neg (by rwa [beq_iff_eq]), ih, List.modifyHead_modifyHead]
        simp only [List.reverse_cons, List.append_assoc, List.singleton_append]
        rfl

theorem utf8Messages_eq_map (content : List UInt8) :
    utf8Messages content =
      (((content.splitOn 0x0A).zipIdx 1).filter fun line => ¬WellFormed line.1).map
        fun (line, number) => utf8Message number (wellFormedLength line + 1) := by
  have hpieces := filterMap_byteLinesFrom [] content 1
  rw [modifyHead_nil_append] at hpieces
  refine hpieces.trans ?_
  rw [← List.filterMap_eq_map, List.filterMap_filter]
  refine List.filterMap_congr fun entry _ => ?_
  by_cases h : WellFormed entry.1
  · simp [h, lineMessage?_of_wellFormed h]
  · simp [h, lineMessage?_of_not_wellFormed h]

/-! Well-formed files -/

theorem wellFormed_intercalate {pieces : List (List UInt8)} :
    WellFormed ([0x0A].intercalate pieces) ↔ ∀ piece ∈ pieces, WellFormed piece := by
  induction pieces with
  | nil => exact iff_of_true ⟨[], rfl⟩ nofun
  | cons piece pieces ih =>
      cases pieces with
      | nil => simp
      | cons next pieces =>
          rw [List.intercalate_cons_cons, List.append_assoc, List.singleton_append,
            wellFormed_append_newline, ih, List.forall_mem_cons (a := piece)]

-- Whether a file is well-formed is settled line by line: a line feed is never a part of
-- a longer sequence.
theorem utf8Messages_eq_nil_iff {content : List UInt8} :
    utf8Messages content = [] ↔ WellFormed content := by
  have hpieces : WellFormed content ↔ ∀ piece ∈ content.splitOn 0x0A, WellFormed piece := by
    rw [← wellFormed_intercalate, List.intercalate_splitOn]
  rw [utf8Messages_eq_map, List.map_eq_nil_iff, List.filter_eq_nil_iff, hpieces]
  constructor
  · intro h piece hpiece
    obtain ⟨index, hindex⟩ := List.mem_iff_getElem?.mp hpiece
    have hmem : (piece, 1 + index) ∈ (content.splitOn 0x0A).zipIdx 1 := by
      rw [List.mem_zipIdx_iff_le_and_getElem?_sub]
      exact ⟨Nat.le_add_right _ _, by rwa [Nat.add_sub_cancel_left]⟩
    simpa using h _ hmem
  · intro h entry hentry
    simpa using h entry.1 (List.fst_mem_of_mem_zipIdx hentry)

theorem isUndecoded_of_wellFormed {source : Source} (hutf8 : source.isUtf8 = .ok true)
    (h : WellFormed source.content) :
    ∀ fault ∈ source.rows.fault, fault.isUndecoded = false := by
  by_cases hdelimiter : ∃ delimiter, source.delimiter.toList = [delimiter]
  · obtain ⟨delimiter, hdelimiter⟩ := hdelimiter
    obtain ⟨text, htext⟩ := h
    have hstream : (decodeStream .utf8Signed source.content).fault = none := by
      rw [← htext, decodeStream_encode]
    intro fault hfault
    rw [Source.rows_of_stream (Source.stream_of_isUtf8 hutf8) hdelimiter] at hfault
    rw [fault_rowsOfStream_of_fault_eq_none hstream fault hfault]
    rfl
  · rw [Source.rows_of_not_delimiter (Source.stream_of_isUtf8 hutf8) (not_exists.mp hdelimiter)]
    rintro fault ⟨⟩
    rfl

theorem checkUtf8_of_isUtf8 {source : Source} (h : source.isUtf8 = .ok true) :
    source.checkUtf8 = .ok (utf8Messages source.content) := by
  rw [Source.checkUtf8, h]
  rfl

theorem checkUtf8_of_isUtf8_eq_false {source : Source} (h : source.isUtf8 = .ok false) :
    source.checkUtf8 = .ok [] := by
  rw [Source.checkUtf8, h]
  rfl

-- The check reports the lines between line feeds that are ill-formed, in their order,
-- each with the place behind its longest well-formed beginning. It reports nothing
-- exactly if the whole file is well-formed, and then the rows can be decoded.
theorem checkUtf8_eq_flawed_lines (source : Source) (h : source.isUtf8 = .ok true) :
    let lines := (source.content.splitOn 0x0A).zipIdx 1
    let flawed := lines.filter fun line => ¬WellFormed line.1
    source.checkUtf8 = .ok (flawed.map fun (line, number) =>
        utf8Message number (wellFormedLength line + 1)) ∧
      (source.checkUtf8 = .ok [] ↔ WellFormed source.content) ∧
      (source.checkUtf8 = .ok [] → ∀ fault ∈ source.rows.fault, fault.isUndecoded = false) := by
  intro lines flawed
  have hnone : source.checkUtf8 = .ok [] ↔ WellFormed source.content := by
    rw [checkUtf8_of_isUtf8 h, Except.ok.injEq, utf8Messages_eq_nil_iff]
  refine ⟨?_, hnone, fun hempty => isUndecoded_of_wellFormed h (hnone.mp hempty)⟩
  rw [checkUtf8_of_isUtf8 h, utf8Messages_eq_map]

-- A line with a lead byte that does not go on, one with a surrogate, and a character
-- that is cut off at the end.
def flawedSource : Source where
  path := "a.csv"
  content := [0x61, 0x2C, 0xC3, 0x0A, 0x62, 0x0A, 0xED, 0xA0, 0x80, 0x0A, 0x63, 0x64, 0xE2, 0x82]
  encoding := "utf-8-sig"
  delimiter := ","

theorem checkUtf8_eq_flawed_lines_of_flawedSource :
    flawedSource.isUtf8 = .ok true ∧
      (let lines := (flawedSource.content.splitOn 0x0A).zipIdx 1
      let flawed := lines.filter fun line => ¬WellFormed line.1
      flawedSource.checkUtf8 = .ok (flawed.map fun (line, number) =>
          utf8Message number (wellFormedLength line + 1)) ∧
        (flawedSource.checkUtf8 = .ok [] ↔ WellFormed flawedSource.content) ∧
        (flawedSource.checkUtf8 = .ok [] →
          ∀ fault ∈ flawedSource.rows.fault, fault.isUndecoded = false)) := by
  have hutf8 : flawedSource.isUtf8 = .ok true := by cbv
  exact ⟨hutf8, checkUtf8_eq_flawed_lines flawedSource hutf8⟩

example : utf8Messages flawedSource.content =
    [utf8Message 1 3, utf8Message 3 1, utf8Message 4 3] := by cbv

end TableSchema.Csv
