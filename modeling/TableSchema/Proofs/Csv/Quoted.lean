import TableSchema.Proofs.Csv.LineReports
import TableSchema.Proofs.Csv.Scanning

namespace TableSchema.Csv

open TableSchema.Encoding
open TableSchema.Text

/-! Writing every cell in quotes -/

-- A quote within quotes is written twice.
def quoteChar (c : Char) : List Char :=
  if c = Record.quote then [c, c] else [c]

def quoteCell (cell : String) : List Char :=
  Record.quote :: (cell.toList.flatMap quoteChar ++ [Record.quote])

def quoteRow (delimiter : Char) (lineEnd : List Char) (row : Row) : List Char :=
  [delimiter].intercalate (row.map quoteCell) ++ lineEnd

def quoteTable (delimiter : Char) (lineEnd : List Char) (table : List Row) : List Char :=
  table.flatMap (quoteRow delimiter lineEnd)

def lineEnds : List (List Char) :=
  [['\n'], ['\r', '\n'], ['\r']]

-- The file in UTF-8, with a byte order mark or without one.
def quotedFile (marked : Bool) (delimiter : Char) (lineEnd : List Char) (table : List Row) :
    List UInt8 :=
  Utf8.encode ((if marked then [byteOrderMark] else []) ++ quoteTable delimiter lineEnd table)

-- Every cell of a row may be read.
def IsReadable (row : Row) : Prop :=
  row ≠ [] ∧ ∀ cell ∈ row, cell.length ≤ Record.fieldLimit

instance : DecidablePred IsReadable := fun row =>
  inferInstanceAs (Decidable (row ≠ [] ∧ ∀ cell ∈ row, cell.length ≤ Record.fieldLimit))

/-! Reading it back -/

section Cell

variable (delimiter : Char) (fields : List String) (rows : List Row)

theorem scanFrom_quotedChars (current : List Char) (size : Nat) (cs rest : List Char)
    (hsize : size + cs.length ≤ Record.fieldLimit) :
    scanFrom delimiter ⟨.inQuotes, fields, current, size⟩ rows (cs.flatMap quoteChar ++ rest) =
      scanFrom delimiter ⟨.inQuotes, fields, cs.reverse ++ current, size + cs.length⟩ rows rest := by
  induction cs generalizing current size with
  | nil => rfl
  | cons c cs ih =>
      rw [List.length_cons] at hsize
      have hroom : ¬Record.fieldLimit ≤ size := by omega
      have hrest := ih (c :: current) (size + 1) (by omega)
      rw [List.flatMap_cons, List.append_assoc, List.reverse_cons, List.append_assoc,
        List.singleton_append, List.length_cons, Nat.add_comm cs.length, ← Nat.add_assoc, ← hrest]
      by_cases hc : c = Record.quote
      · -- The first of the two quotes seems to end the cell, the second goes on with it.
        have hfirst : Record.step? delimiter c ⟨.inQuotes, fields, current, size⟩ =
            some ⟨.afterQuote, fields, current, size⟩ := by simp [Record.step?, hc]
        have hsecond : Record.step? delimiter c ⟨.afterQuote, fields, current, size⟩ =
            some ⟨.inQuotes, fields, c :: current, size + 1⟩ := by
          simp [Record.step?, hc, Record.addChar?, hroom]
        rw [quoteChar, if_pos hc, List.cons_append, List.singleton_append,
          scanFrom_of_step hfirst (.inl (by subst hc; rfl)), scanFrom_of_step hsecond (.inr rfl)]
      · have hother : Record.step? delimiter c ⟨.inQuotes, fields, current, size⟩ =
            some ⟨.inQuotes, fields, c :: current, size + 1⟩ := by
          simp [Record.step?, hc, Record.addChar?, hroom]
        rw [quoteChar, if_neg hc, List.singleton_append, scanFrom_of_step hother (.inr rfl)]

theorem scanFrom_quoteCell {phase : Phase} (hphase : phase = .recordStart ∨ phase = .fieldStart)
    {cell : String} (hcell : cell.length ≤ Record.fieldLimit) (rest : List Char) :
    scanFrom delimiter ⟨phase, fields, [], 0⟩ rows (quoteCell cell ++ rest) =
      scanFrom delimiter ⟨.afterQuote, fields, cell.toList.reverse, cell.length⟩ rows rest := by
  have hopening : Record.step? delimiter Record.quote ⟨phase, fields, [], 0⟩ =
      some ⟨.inQuotes, fields, [], 0⟩ := by
    rcases hphase with rfl | rfl <;> rfl
  have hclosing : Record.step? delimiter Record.quote
      ⟨.inQuotes, fields, cell.toList.reverse, cell.length⟩ =
        some ⟨.afterQuote, fields, cell.toList.reverse, cell.length⟩ := rfl
  rw [quoteCell, List.cons_append, List.append_assoc, List.singleton_append,
    scanFrom_of_step hopening (.inr rfl),
    scanFrom_quotedChars _ _ _ _ _ _ _ (by rwa [Nat.zero_add, String.length_toList]), List.append_nil, Nat.zero_add,
    String.length_toList, scanFrom_of_step hclosing (.inl rfl)]

end Cell

-- What stands behind the quoted cell in its row.
theorem scanFrom_behindCell {delimiter : Char} (hquote : delimiter ≠ Record.quote)
    (hline : Record.isLineEnd delimiter = false) (fields : List String) (rows : List Row)
    (cell : String) (rest : List Char) :
    scanFrom delimiter ⟨.afterQuote, fields, cell.toList.reverse, cell.length⟩ rows
        (delimiter :: rest) =
      scanFrom delimiter ⟨.fieldStart, cell :: fields, [], 0⟩ rows rest := by
  have hends : endsLine delimiter rest = false := by
    rw [Bool.eq_false_iff]
    intro h
    rw [isLineEnd_of_endsLine h] at hline
    cases hline
  refine scanFrom_of_step ?_ (.inl hends) rows
  simp [Record.step?, hquote, Record.saveField]

theorem scanFrom_lineEnd {delimiter : Char} (hline : Record.isLineEnd delimiter = false)
    {lineEnd : List Char} (hlineEnd : lineEnd ∈ lineEnds) (fields : List String) (rows : List Row)
    (cell : String) {rest : List Char} (hrest : rest.head? ≠ some '\n') :
    scanFrom delimiter ⟨.afterQuote, fields, cell.toList.reverse, cell.length⟩ rows
        (lineEnd ++ rest) =
      scanFrom delimiter Record.start ((cell :: fields).reverse :: rows) rest := by
  have hstep : ∀ c, Record.isLineEnd c = true →
      Record.step? delimiter c ⟨.afterQuote, fields, cell.toList.reverse, cell.length⟩ =
        some ⟨.ended, cell :: fields, [], 0⟩ := by
    intro c hc
    have hquote : c ≠ Record.quote := by
      rintro rfl
      cases hc
    have hdelimiter : c ≠ delimiter := by
      rintro rfl
      rw [hc] at hline
      cases hline
    simp [Record.step?, hquote, hdelimiter, hc, Record.saveField]
  simp only [lineEnds, List.mem_cons, List.not_mem_nil, or_false] at hlineEnd
  rcases hlineEnd with rfl | rfl | rfl
  · exact scanFrom_of_completed (hstep '\n' rfl) rfl rfl rows
  · refine (scanFrom_of_step (hstep '\r' rfl) (.inl rfl) rows).trans ?_
    exact scanFrom_of_completed rfl rfl rfl rows
  · have hends : endsLine '\r' rest = true := by
      simpa [endsLine] using hrest
    exact scanFrom_of_completed (hstep '\r' rfl) hends rfl rows

theorem scanFrom_quoteRow {delimiter : Char} (hquote : delimiter ≠ Record.quote)
    (hline : Record.isLineEnd delimiter = false) {lineEnd : List Char}
    (hlineEnd : lineEnd ∈ lineEnds) {phase : Phase}
    (hphase : phase = .recordStart ∨ phase = .fieldStart) (fields : List String) (rows : List Row)
    {row : Row} (hrow : IsReadable row) {rest : List Char} (hrest : rest.head? ≠ some '\n') :
    scanFrom delimiter ⟨phase, fields, [], 0⟩ rows (quoteRow delimiter lineEnd row ++ rest) =
      scanFrom delimiter Record.start ((fields.reverse ++ row) :: rows) rest := by
  obtain ⟨hne, hcells⟩ := hrow
  induction row generalizing phase fields with
  | nil => exact absurd rfl hne
  | cons cell cells ih =>
      obtain ⟨hcell, hothers⟩ := List.forall_mem_cons.mp hcells
      cases cells with
      | nil =>
          rw [quoteRow, List.map_singleton, List.intercalate_singleton, List.append_assoc,
            scanFrom_quoteCell _ _ _ hphase hcell, scanFrom_lineEnd hline hlineEnd _ _ _ hrest,
            List.reverse_cons]
      | cons next cells =>
          have hnext := ih (.inr rfl) (cell :: fields) (List.cons_ne_nil _ _) hothers
          rw [quoteRow, List.map_cons] at hnext
          rw [quoteRow, List.map_cons, List.map_cons, List.intercalate_cons_cons]
          simp only [List.append_assoc, List.nil_append, List.cons_append] at hnext ⊢
          rw [scanFrom_quoteCell _ _ _ hphase hcell, scanFrom_behindCell hquote hline, hnext]
          simp only [List.reverse_cons, List.append_assoc, List.singleton_append]

theorem head?_quoteTable (delimiter : Char) (lineEnd : List Char) {table : List Row}
    (htable : ∀ row ∈ table, IsReadable row) :
    table = [] ∨ (quoteTable delimiter lineEnd table).head? = some Record.quote := by
  cases table with
  | nil => exact .inl rfl
  | cons row table =>
      obtain ⟨hne, -⟩ := htable row List.mem_cons_self
      right
      match row with
      | [] => exact absurd rfl hne
      | [cell] => rfl
      | cell :: next :: cells => rfl

-- A table whose cells are all in quotes is read as it was written.
theorem scan_quoteTable {delimiter : Char} (hquote : delimiter ≠ Record.quote)
    (hline : Record.isLineEnd delimiter = false) {lineEnd : List Char}
    (hlineEnd : lineEnd ∈ lineEnds) {table : List Row} (htable : ∀ row ∈ table, IsReadable row) :
    scan delimiter (quoteTable delimiter lineEnd table) = ⟨table, some Record.start⟩ := by
  have hall : ∀ rows, scanFrom delimiter Record.start rows (quoteTable delimiter lineEnd table) =
      ⟨rows.reverse ++ table, some Record.start⟩ := by
    induction table with
    | nil => simp [quoteTable, scanFrom]
    | cons row table ih =>
        intro rows
        obtain ⟨hrow, hothers⟩ := List.forall_mem_cons.mp htable
        have hrest : (quoteTable delimiter lineEnd table).head? ≠ some '\n' := by
          rcases head?_quoteTable delimiter lineEnd hothers with rfl | h
          · intro hhead
            cases hhead
          · rw [h]
            decide
        have hfirst := scanFrom_quoteRow hquote hline hlineEnd (.inl rfl) [] rows hrow hrest
        rw [quoteTable, List.flatMap_cons]
        refine hfirst.trans ?_
        rw [List.reverse_nil, List.nil_append, ih hothers, List.reverse_cons, List.append_assoc,
          List.singleton_append]
  exact hall []

/-! Reading the file back -/

-- Only a mark in front of the file is dropped. No cell loses one, for there is a quote
-- in front of it.
theorem dropByteOrderMark_quoteTable (marked : Bool) (delimiter : Char) (lineEnd : List Char)
    {table : List Row} (htable : ∀ row ∈ table, IsReadable row) :
    dropByteOrderMark
        ((if marked then [byteOrderMark] else []) ++ quoteTable delimiter lineEnd table) =
      quoteTable delimiter lineEnd table := by
  cases marked with
  | true => rfl
  | false =>
      rcases head?_quoteTable delimiter lineEnd htable with rfl | hhead
      · rfl
      · obtain ⟨text, htext⟩ := List.head?_eq_some_iff.mp hhead
        rw [htext]
        rfl

section Source

variable {source : Source} {marked : Bool} {delimiter : Char} {lineEnd : List Char}
  {table : List Row} (hcontent : source.content = quotedFile marked delimiter lineEnd table)
  (hutf8 : source.isUtf8 = .ok true)

include hcontent hutf8

theorem checkUtf8_of_quotedFile : source.checkUtf8 = .ok [] := by
  rw [checkUtf8_of_isUtf8 hutf8, utf8Messages_eq_nil_iff.mpr ⟨_, hcontent.symm⟩]

theorem rows_of_quotedFile (hdelimiter : source.delimiter.toList = [delimiter])
    (hquote : delimiter ≠ Record.quote) (hline : Record.isLineEnd delimiter = false)
    (hlineEnd : lineEnd ∈ lineEnds) (htable : ∀ row ∈ table, IsReadable row) :
    source.rows = ⟨table, none⟩ := by
  have hstream : decodeStream .utf8Signed source.content =
      ⟨quoteTable delimiter lineEnd table, none⟩ := by
    rw [hcontent, quotedFile, decodeStream_encode, dropByteOrderMark_quoteTable _ _ _ htable]
  rw [Source.rows_of_stream (Source.stream_of_isUtf8 hutf8) hdelimiter]
  simp only [hstream, rowsOfStream, scan_quoteTable hquote hline hlineEnd htable]
  simp [Record.remaining?, Record.start]

end Source

end TableSchema.Csv
