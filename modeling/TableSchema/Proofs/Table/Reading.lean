import TableSchema.Proofs.Csv.Quoted
import TableSchema.Proofs.Table.Watching

namespace TableSchema.Engine

open TableSchema.Encoding

/-! Files that can be opened -/

theorem delimiter_of_ofPath {files : FileTree} {path encoding delimiter : String}
    {source : Csv.Source} (h : Csv.Source.ofPath files path encoding delimiter = .ok source) :
    source.delimiter = delimiter := by
  simp only [Csv.Source.ofPath] at h
  split at h
  · cases h
  · cases h
  · cases h
  · obtain rfl := Except.ok.inj h
    rfl
  · cases h

section Files

variable {engine : Engine} {files : FileTree} {schema : Schema} {path encoding : String}
  {checksUtf8 : Bool} {source : Csv.Source}

theorem rowSource?_of_lineReports (hsource : Csv.Source.ofPath files path encoding "," = .ok source)
    (hreports : lineReports source checksUtf8 = .ok []) :
    rowSource? files path encoding checksUtf8 = some source := by
  simp only [rowSource?, hsource, hreports]

-- Rows that can be read to their end are all checked, whoever watches.
theorem fileRun_of_fault_eq_none (h : rowSource? files path encoding checksUtf8 = some source)
    (hfault : source.rows.fault = none) (display : Option Display) :
    ∃ total, engine.fileRun files schema path encoding checksUtf8 display =
      engine.rowsRun files schema (.ofFile source.rows) display total := by
  cases display with
  | none => exact ⟨none, fileRun_none_of_rowSource? h⟩
  | some display => exact fileRun_some_of_fault_eq_none h hfault display

-- The rows of a file are checked, unless a display wants to know their number and they cannot
-- be read to their end.
theorem fileRun_cases (h : rowSource? files path encoding checksUtf8 = some source)
    (display : Option Display) :
    (∃ total, engine.fileRun files schema path encoding checksUtf8 display =
        engine.rowsRun files schema (.ofFile source.rows) display total) ∨
      ∃ reading, source.rows.fault = some reading ∧
        engine.fileRun files schema path encoding checksUtf8 display = .failed (.unread reading) := by
  cases hfault : source.rows.fault with
  | none => exact .inl (fileRun_of_fault_eq_none h hfault display)
  | some reading =>
      cases display with
      | none => exact .inl ⟨none, fileRun_none_of_rowSource? h⟩
      | some display => exact .inr ⟨reading, rfl, fileRun_some_of_fault h hfault display⟩

-- A run over rows has no other faults than those of the rules and the one in which
-- the rows end.
theorem fault_rowsRun {feed : Feed} {display : Option Display} {total : Option Int} :
    ∀ fault ∈ (engine.rowsRun files schema feed display total).fault,
      (∃ reason, fault = .undecided reason) ∨ ∃ reading ∈ feed.fault, fault = .unread reading := by
  rw [fault_rowsRun_eq_faultOf]
  rcases ((engine.checker files).checkFeed schema feed).result with (_ | reason) | ⟨⟩
  · nofun
  · rintro fault ⟨⟩
    exact .inl ⟨reason, rfl⟩
  · intro fault hfault
    obtain ⟨reading, hreading, rfl⟩ := Option.map_eq_some_iff.mp hfault
    exact .inr ⟨reading, hreading, rfl⟩

theorem exists_lineReports (hname : isCharsetName source.encoding = true) (checksUtf8 : Bool) :
    ∃ messages, lineReports source checksUtf8 = .ok messages := by
  obtain ⟨codec, hcodec⟩ := Option.isSome_iff_exists.mp hname
  have hutf8 : source.isUtf8 = .ok (codec == .charset .utf8 || codec == .charset .utf8Signed) := by
    simp only [Csv.Source.isUtf8, hcodec]
  cases checksUtf8 with
  | false => exact ⟨[], rfl⟩
  | true =>
      cases htold : codec == .charset .utf8 || codec == .charset .utf8Signed with
      | false => exact ⟨[], Csv.checkUtf8_of_isUtf8_eq_false (htold ▸ hutf8)⟩
      | true => exact ⟨Csv.utf8Messages source.content, Csv.checkUtf8_of_isUtf8 (htold ▸ hutf8)⟩

-- The ill-formed lines of a file are reported, if they are wanted and it is to be in UTF-8.
theorem lineReports_cases {messages : List Message}
    (h : lineReports source checksUtf8 = .ok messages) :
    (messages = [] ∧ ¬(checksUtf8 = true ∧ source.isUtf8 = .ok true)) ∨
      (messages = Csv.utf8Messages source.content ∧ checksUtf8 = true ∧
        source.isUtf8 = .ok true) := by
  cases checksUtf8 with
  | false => exact .inl ⟨(Except.ok.inj h).symm, fun hboth => Bool.false_ne_true hboth.1⟩
  | true =>
      change source.checkUtf8 = .ok messages at h
      cases hutf8 : source.isUtf8 with
      | error fault => simp [Csv.Source.checkUtf8, hutf8, bind, Except.bind] at h
      | ok isUtf8 =>
          cases isUtf8 with
          | false =>
              rw [Csv.checkUtf8_of_isUtf8_eq_false hutf8] at h
              refine .inl ⟨(Except.ok.inj h).symm, fun hboth => ?_⟩
              exact Bool.false_ne_true (Except.ok.inj hboth.2)
          | true =>
              rw [Csv.checkUtf8_of_isUtf8 hutf8] at h
              exact .inr ⟨(Except.ok.inj h).symm, rfl, rfl⟩

-- What is reported on the lines of a file are places at which they are ill-formed.
theorem exists_utf8Message_of_lineReports {messages : List Message}
    (h : lineReports source checksUtf8 = .ok messages) :
    ∀ message ∈ messages, ∃ line column, message = Csv.utf8Message line column := by
  intro message hmessage
  rcases lineReports_cases h with ⟨rfl, -⟩ | ⟨rfl, -⟩
  · cases hmessage
  · obtain ⟨line, -, hline⟩ := List.mem_filterMap.mp hmessage
    obtain ⟨fault, -, rfl⟩ := Option.map_eq_some_iff.mp hline
    exact ⟨_, _, rfl⟩

theorem isError_of_lineReports {messages : List Message}
    (h : lineReports source checksUtf8 = .ok messages) : ∀ message ∈ messages, message.isError = true := by
  intro message hmessage
  obtain ⟨line, column, rfl⟩ := exists_utf8Message_of_lineReports h message hmessage
  rfl

-- A run over a file that can be opened has no other faults than those of the rules and
-- the one of reading it to its end.
theorem fault_fileRun (hsource : Csv.Source.ofPath files path encoding "," = .ok source)
    (hname : isCharsetName source.encoding = true) {display : Option Display} :
    ∀ fault ∈ (engine.fileRun files schema path encoding checksUtf8 display).fault,
      (∃ reason, fault = .undecided reason) ∨
        ∃ reading ∈ source.rows.fault, fault = .unread reading := by
  obtain ⟨messages, hreports⟩ := exists_lineReports hname checksUtf8
  cases messages with
  | cons message messages =>
      simp only [fileRun, hsource, sourceRun, hreports]
      intro fault hfault
      cases hfault
  | nil =>
      rcases fileRun_cases (rowSource?_of_lineReports hsource hreports) display with
        ⟨total, hrun⟩ | ⟨reading, hreading, hrun⟩
      · rw [hrun]
        exact fault_rowsRun
      · rw [hrun]
        rintro fault ⟨⟩
        exact .inr ⟨reading, hreading, rfl⟩

end Files

/-! Tables in quotes -/

-- A file in UTF-8 that holds a table with every cell in quotes is read as this table,
-- and with commas it is checked like the table in memory.
theorem quotedFile_reads_as_table {table : List Csv.Row} {delimiter : Char} {lineEnd : List Char}
    (htable : ∀ row ∈ table, Csv.IsReadable row) (hquote : delimiter ≠ Csv.Record.quote)
    (hline : Csv.Record.isLineEnd delimiter = false) (hlineEnd : lineEnd ∈ Csv.lineEnds)
    (marked : Bool) {files : FileTree} {path encoding : String} {source : Csv.Source}
    (hsource : Csv.Source.ofPath files path encoding (String.singleton delimiter) = .ok source)
    (hcontent : source.content = Csv.quotedFile marked delimiter lineEnd table)
    (hutf8 : source.isUtf8 = .ok true) :
    source.rows = ⟨table, none⟩ ∧
      (delimiter = ',' →
        ∀ (engine : Engine) (schema : Schema) (checksUtf8 : Bool) (display display' : Option Display)
          (total : Option Int),
        let read := engine.validateFile files schema path encoding checksUtf8 display
        let held := engine.validate files schema (.ofTable table) display' total
        read.1.outcome = held.1.outcome ∧ read.2.results = held.2.results) := by
  have hdelimiter : source.delimiter.toList = [delimiter] := by
    rw [delimiter_of_ofPath hsource, String.toList_singleton]
  have hrows : source.rows = ⟨table, none⟩ :=
    Csv.rows_of_quotedFile hcontent hutf8 hdelimiter hquote hline hlineEnd htable
  refine ⟨hrows, ?_⟩
  rintro rfl engine schema checksUtf8 display display' total read held
  have hreports : lineReports source checksUtf8 = .ok [] := by
    cases checksUtf8 with
    | false => rfl
    | true => exact Csv.checkUtf8_of_quotedFile hcontent hutf8
  obtain ⟨counted, hrun⟩ : ∃ counted, engine.fileRun files schema path encoding checksUtf8 display =
      engine.rowsRun files schema (.ofFile source.rows) display counted :=
    fileRun_of_fault_eq_none (rowSource?_of_lineReports hsource hreports) (by rw [hrows]) display
  have hfed : (Feed.ofFile source.rows).rows = (Feed.ofTable table).rows := by
    rw [hrows]
    rfl
  have hends : (Feed.ofFile source.rows).fault = (Feed.ofTable table).fault := by
    rw [hrows]
    rfl
  have hsame := rowsRun_eq_of_rows engine files schema hfed hends display display' counted total
  simp only [read, held, validateFile_eq, validate_eq, hrun]
  exact ⟨hsame.2, hsame.1⟩

-- A table with quotes, delimiters, line breaks and a byte order mark in its cells.
def awkwardTable : List Csv.Row :=
  [["A", "B"], ["\"x\",\r\n", ""], ["\uFEFF1", "\n"]]

def awkwardFiles : FileTree where
  entries := [(["a.csv"], .file (Csv.quotedFile true ',' ['\r', '\n'] awkwardTable))]
  workingDirectory := []

def awkwardSource : Csv.Source where
  path := "a.csv"
  content := Csv.quotedFile true ',' ['\r', '\n'] awkwardTable
  encoding := "utf-8"
  delimiter := ","

theorem quotedFile_reads_as_table_of_awkwardTable :
    (∀ row ∈ awkwardTable, Csv.IsReadable row) ∧
      Csv.Source.ofPath awkwardFiles "a.csv" "utf-8" (String.singleton ',') = .ok awkwardSource ∧
      awkwardSource.isUtf8 = .ok true ∧ awkwardSource.rows = ⟨awkwardTable, none⟩ ∧
      ∀ (engine : Engine) (schema : Schema) (checksUtf8 : Bool) (display display' : Option Display)
          (total : Option Int),
        let read := engine.validateFile awkwardFiles schema "a.csv" "utf-8" checksUtf8 display
        let held := engine.validate awkwardFiles schema (.ofTable awkwardTable) display' total
        read.1.outcome = held.1.outcome ∧ read.2.results = held.2.results := by
  have htable : ∀ row ∈ awkwardTable, Csv.IsReadable row := by decide
  have hsource : Csv.Source.ofPath awkwardFiles "a.csv" "utf-8" (String.singleton ',') =
      .ok awkwardSource := by cbv
  have hutf8 : awkwardSource.isUtf8 = .ok true := by cbv
  obtain ⟨hrows, hruns⟩ := quotedFile_reads_as_table htable (by decide) (by decide) (by decide) true
    hsource rfl hutf8
  exact ⟨htable, hsource, hutf8, hrows, hruns rfl⟩

/-! Files that cannot be read -/

section Faults

variable {engine : Engine} {files : FileTree} {schema : Schema} {path encoding : String}
  {checksUtf8 : Bool} {source : Csv.Source} {reading : Csv.ReadFault}
  (h : rowSource? files path encoding checksUtf8 = some source)
  (hfault : source.rows.fault = some reading)

include h hfault

-- A run comes to the fault in which the rows end if they are counted before, or are all checked.
theorem fault_fileRun_eq_unread_iff (display : Option Display) :
    (engine.fileRun files schema path encoding checksUtf8 display).fault = some (.unread reading) ↔
      (display = none →
        ((engine.checker files).checkFeed schema (.ofFile source.rows)).result = .ok ()) := by
  cases display with
  | some display =>
      rw [fileRun_some_of_fault h hfault]
      exact iff_of_true rfl nofun
  | none =>
      have hfeed : (Feed.ofFile source.rows).fault = some reading := hfault
      rw [fileRun_none_of_rowSource? h, fault_rowsRun_eq_faultOf, hfeed, forall_prop_of_true rfl]
      rcases ((engine.checker files).checkFeed schema (.ofFile source.rows)).result with
        (_ | reason) | ⟨⟩
      · simp [Job.faultOf]
      · simp [Job.faultOf]
      · simp [Job.faultOf]

theorem fault_fileRun_of_rows_eq_nil (hrows : source.rows.rows = []) (display : Option Display) :
    (engine.fileRun files schema path encoding checksUtf8 display).fault =
      some (.unread reading) := by
  refine (fault_fileRun_eq_unread_iff h hfault display).mpr fun _ => ?_
  simp [Checker.checkFeed, Checker.remainder_nil, Feed.ofFile, Schema.dataRows, hfault, hrows]

end Faults

theorem rowSource?_of_breaks {files : FileTree} {path encoding : String} {source : Csv.Source}
    {delimiter : Char} (hsource : Csv.Source.ofPath files path encoding "," = .ok source)
    (h : source.Breaks delimiter) (checksUtf8 : Bool) :
    rowSource? files path encoding checksUtf8 = some source := by
  refine rowSource?_of_lineReports hsource ?_
  cases checksUtf8 with
  | false => rfl
  | true => exact Csv.checkUtf8_of_isUtf8_eq_false h.isUtf8_eq

-- For every name of a codec, what reading a file comes to is told as a failure of the file
-- unless reading breaks. This settles the rows, their number, and what a run over the file may
-- end in apart from a rule: it comes to the break if the rows are counted for a display, or all
-- checked.
theorem reading_isParseFailure_iff {delimiter : Char} {files : FileTree} {path encoding : String}
    {source : Csv.Source}
    (hsource : Csv.Source.ofPath files path encoding (String.singleton delimiter) = .ok source)
    (hname : isCharsetName source.encoding = true) :
    ((∀ fault ∈ source.rows.fault, fault.isParseFailure = true) ↔ ¬source.Breaks delimiter) ∧
      ((∀ fault, source.countRows = .error fault → fault.isParseFailure = true) ↔
        ¬source.Breaks delimiter) ∧
      (delimiter = ',' →
        ∀ (engine : Engine) (schema : Schema) (checksUtf8 : Bool) (display : Option Display),
        let run := (engine.validateFile files schema path encoding checksUtf8 display).1
        let check := (engine.checker files).checkFeed schema (.ofFile source.rows)
        (∀ fault ∈ run.fault, (∃ reason, fault = .undecided reason) ∨
          ∃ reading, fault = .unread reading ∧ reading.isParseFailure = true) ↔
            ¬(source.Breaks delimiter ∧ (display = none → check.result = .ok ()))) := by
  have hdelimiter : source.delimiter.toList = [delimiter] := by
    rw [delimiter_of_ofPath hsource, String.toList_singleton]
  have hrows := Csv.Source.rows_isParseFailure_iff hname hdelimiter
  refine ⟨hrows, ?_, ?_⟩
  · simp only [Csv.Source.countRows_eq_error_iff]
    exact hrows
  · rintro rfl engine schema checksUtf8 display run check
    simp only [run, validateFile_eq]
    constructor
    · rintro hrun ⟨hbreaks, hreached⟩
      obtain ⟨reading, hreading, hother⟩ :
          ∃ reading ∈ source.rows.fault, reading.isParseFailure ≠ true := by
        have hnot := mt hrows.mp (not_not_intro hbreaks)
        push Not at hnot
        exact hnot
      have hfault := (fault_fileRun_eq_unread_iff (rowSource?_of_breaks hsource hbreaks checksUtf8)
        hreading display).mpr hreached
      rcases hrun _ hfault with ⟨reason, hreason⟩ | ⟨found, hfound, hparse⟩
      · cases hreason
      · cases hfound
        exact hother hparse
    · intro hsafe fault hfault
      rcases fault_fileRun hsource hname fault hfault with hrule | ⟨reading, hreading, rfl⟩
      · exact .inl hrule
      · refine .inr ⟨reading, rfl, ?_⟩
        by_cases hbreaks : source.Breaks ','
        · have hreached := (fault_fileRun_eq_unread_iff
            (rowSource?_of_breaks hsource hbreaks checksUtf8) hreading display).mp hfault
          exact absurd ⟨hbreaks, hreached⟩ hsafe
        · exact hrows.mpr hbreaks reading hreading

-- A file with a mark, behind which a unit is cut off.
def markedFiles : FileTree where
  entries := [(["a.csv"], .file [0xFF, 0xFE, 0x61, 0x00, 0x0A])]
  workingDirectory := []

def markedSource (encoding : String) : Csv.Source where
  path := "a.csv"
  content := [0xFF, 0xFE, 0x61, 0x00, 0x0A]
  encoding := encoding
  delimiter := ","

theorem not_breaks_markedSource : ¬(markedSource "utf-16").Breaks ',' := by
  have hcharset : Charset.ofName? (markedSource "utf-16").encoding = some .utf16 := by cbv
  rw [Csv.Source.breaks_charset_iff (Codec.ofName?_eq_charset_iff.mpr hcharset)]
  rintro ⟨-, horder, -⟩
  have hmark : byteOrder? ((markedSource "utf-16").content.take chunkSize) = some false := by cbv
  rw [hmark] at horder
  cases horder

-- The cut-off unit is told as a failure of the file. Reading breaks in a codec that turns bytes
-- into bytes, and in the one that nothing can be read in.
theorem reading_isParseFailure_iff_of_markedFiles :
    (∀ encoding ∈ ["utf-16", "hex", "Undefined"],
        Csv.Source.ofPath markedFiles "a.csv" encoding (String.singleton ',') =
            .ok (markedSource encoding) ∧
          isCharsetName (markedSource encoding).encoding = true) ∧
      (∀ fault ∈ (markedSource "utf-16").rows.fault, fault.isParseFailure = true) ∧
      (∀ (engine : Engine) (schema : Schema) (checksUtf8 : Bool) (display : Option Display),
        let run := (engine.validateFile markedFiles schema "a.csv" "utf-16" checksUtf8 display).1
        ∀ fault ∈ run.fault, (∃ reason, fault = .undecided reason) ∨
          ∃ reading, fault = .unread reading ∧ reading.isParseFailure = true) ∧
      (¬∀ fault, (markedSource "hex").countRows = .error fault → fault.isParseFailure = true) ∧
      ¬∀ fault ∈ (markedSource "Undefined").rows.fault, fault.isParseFailure = true := by
  have hopened : ∀ encoding ∈ ["utf-16", "hex", "Undefined"],
      Csv.Source.ofPath markedFiles "a.csv" encoding (String.singleton ',') =
          .ok (markedSource encoding) ∧
        isCharsetName (markedSource encoding).encoding = true := by
    intro encoding hencoding
    fin_cases hencoding
    · exact ⟨rfl, by decide +kernel⟩
    · exact ⟨rfl, by decide +kernel⟩
    · exact ⟨rfl, by decide +kernel⟩
  have hmarked := hopened "utf-16" (by simp)
  have hbinary := hopened "hex" (by simp)
  have hundefined := hopened "Undefined" (by simp)
  obtain ⟨hrows, -, hruns⟩ := reading_isParseFailure_iff hmarked.1 hmarked.2
  have hhex : Codec.ofName? (markedSource "hex").encoding = some .binary := by decide +kernel
  have hother : Codec.ofName? (markedSource "Undefined").encoding = some (.other "undefined") := by
    decide +kernel
  refine ⟨hopened, hrows.mpr not_breaks_markedSource, fun engine schema checksUtf8 display => ?_, ?_, ?_⟩
  · exact (hruns rfl engine schema checksUtf8 display).mpr fun h => not_breaks_markedSource h.1
  · rw [(reading_isParseFailure_iff hbinary.1 hbinary.2).2.1, not_not]
    exact .binary hhex
  · rw [(reading_isParseFailure_iff hundefined.1 hundefined.2).1, not_not]
    exact .decoder hother ⟨_, rfl, rfl⟩ (by decide)

-- The same text without a mark.
def unmarkedFiles : FileTree where
  entries := [(["a.csv"], .file [0x61, 0x00, 0x0A, 0x00])]
  workingDirectory := []

def unmarkedSource : Csv.Source where
  path := "a.csv"
  content := [0x61, 0x00, 0x0A, 0x00]
  encoding := "utf-16"
  delimiter := ","

-- Neither the rows nor their number nor a run over them end as a failure of the file.
theorem reading_not_isParseFailure_of_unmarkedFiles :
    Csv.Source.ofPath unmarkedFiles "a.csv" "utf-16" "," = .ok unmarkedSource ∧
      isCharsetName unmarkedSource.encoding = true ∧
      unmarkedSource.rows = ⟨[], some .noByteOrderMark⟩ ∧
      unmarkedSource.countRows = .error .noByteOrderMark ∧
      (∀ (engine : Engine) (schema : Schema) (checksUtf8 : Bool) (display : Option Display),
        let run := (engine.validateFile unmarkedFiles schema "a.csv" "utf-16" checksUtf8 display).1
        run.fault = some (.unread .noByteOrderMark)) ∧
      Csv.ReadFault.isParseFailure .noByteOrderMark = false := by
  have hsource : Csv.Source.ofPath unmarkedFiles "a.csv" "utf-16" "," = .ok unmarkedSource := by cbv
  have hcharset : Charset.ofName? unmarkedSource.encoding = some .utf16 := by cbv
  have hmark : Unmarked (unmarkedSource.content.take chunkSize) := by
    have hdecoded : decodeUnits false [] 0 (unmarkedSource.content.take chunkSize) =
        ⟨['a', '\n'], none⟩ := by cbv
    refine ⟨by cbv, ?_⟩
    rw [hdecoded]
    refine ⟨by decide, fun flaw hflaw => ?_⟩
    cases hflaw
  have hrows : unmarkedSource.rows = ⟨[], some .noByteOrderMark⟩ := by
    have hstream : unmarkedSource.stream = .ok (decodeStream .utf16 unmarkedSource.content) :=
      Csv.Source.stream_of_charset hcharset
    rw [Csv.Source.rows_of_stream hstream (show _ = [','] by cbv), decodeStream_of_unmarked hmark]
    rfl
  have hbreaks : unmarkedSource.Breaks ',' :=
    .unmarked (Codec.ofName?_eq_charset_iff.mpr hcharset) hmark
  refine ⟨hsource, isCharsetName_of_charset hcharset, hrows,
    Csv.Source.countRows_eq_error_iff.mpr (by rw [hrows]), fun _ _ checksUtf8 display => ?_, rfl⟩
  simp only [validateFile_eq]
  exact fault_fileRun_of_rows_eq_nil (rowSource?_of_breaks hsource hbreaks checksUtf8)
    (by rw [hrows]) (by rw [hrows]) display

end TableSchema.Engine
