import TableSchema.Proofs.Csv.RowLines
import TableSchema.Proofs.Table.Answers
import TableSchema.Proofs.Table.Reading

namespace TableSchema

/-! Reports in the parts of a check -/

namespace Check

variable {α β : Type}

theorem mem_messages_bind {first : Check α} {next : α → Check β} {message : Message}
    (h : message ∈ (first >>= next).messages) :
    message ∈ first.messages ∨ ∃ value, message ∈ (next value).messages := by
  cases hresult : first.result with
  | error halt =>
      rw [bind_of_error hresult] at h
      exact .inl h
  | ok value =>
      rw [bind_of_ok hresult] at h
      exact (List.mem_append.mp h).imp_right fun hnext => ⟨value, hnext⟩

theorem mem_messages_report {failFast : Bool} {message reported : Message}
    (h : message ∈ (report failFast reported).messages) : message = reported :=
  List.mem_singleton.mp h

theorem mem_messages_each {check : α → Check Unit} {entries : List α} {message : Message}
    (h : message ∈ (each check entries).messages) :
    ∃ entry ∈ entries, message ∈ (check entry).messages := by
  induction entries with
  | nil => cases h
  | cons entry entries ih =>
      rcases mem_messages_bind h with hfirst | ⟨_, hrest⟩
      · exact ⟨entry, List.mem_cons_self, hfirst⟩
      · obtain ⟨other, hother, hmessage⟩ := ih hrest
        exact ⟨other, List.mem_cons_of_mem _ hother, hmessage⟩

end Check

/-! Reports on a row -/

-- A report on a row with a line number: on its width, or on one of its cells.
inductive Schema.Reports (schema : Schema) (row : Csv.Row) (line : Nat) : Message → Prop
  | width : row.length ≠ schema.total →
      Reports schema row line (widthMessage schema.total row.length line)
  | cell {column : Column} {index : Nat} {value : String} {rule : Rule} :
      schema.columns[index]? = some column → row[index]? = some value → rule ∈ column.rules →
      Reports schema row line (Cell.message { column, line, value } rule)

theorem Schema.Reports.line_eq {schema : Schema} {row : Csv.Row} {line : Nat} {message : Message}
    (h : schema.Reports row line message) : message.line = some (line : Int) := by
  cases h <;> rfl

namespace Checker

variable {checker : Checker} {schema : Schema} {before : List Csv.Row} {line : Nat}
  {message : Message}

theorem reports_of_judgeCell {row : Csv.Row} {entry : Column × Nat}
    (hentry : entry ∈ schema.columns.zipIdx)
    (h : message ∈ (checker.judgeCell schema before line row entry).messages) :
    schema.Reports row line message := by
  simp only [judgeCell] at h
  split at h
  · cases h
  · rename_i question hquestion
    have hvalue : row[entry.2]? = some question.value := by
      simp only [question?] at hquestion
      split at hquestion
      · obtain ⟨value, hvalue, rfl⟩ := Option.map_eq_some_iff.mp hquestion
        exact (Option.filter_eq_some_iff.mp hvalue).1
      · cases hquestion
    obtain ⟨rule, hrule, hmessage⟩ := Check.mem_messages_each h
    simp only [judgeRule] at hmessage
    split at hmessage
    · cases hmessage
    · split at hmessage
      · rw [Check.mem_messages_report hmessage]
        exact .cell (List.mem_zipIdx_iff_getElem?.mp hentry) hvalue hrule
      · cases hmessage

theorem reports_of_judgeRow {row : Csv.Row}
    (h : message ∈ (checker.judgeRow schema before line row).messages) :
    schema.Reports row line message := by
  simp only [judgeRow] at h
  split at h
  · obtain ⟨entry, hentry, hmessage⟩ := Check.mem_messages_each h
    exact reports_of_judgeCell hentry hmessage
  · rename_i hwidth
    rw [Check.mem_messages_report h]
    exact .width hwidth

-- The lines of the reports count the rows.
theorem reports_of_judge {rows : List Csv.Row}
    (h : message ∈ (checker.judge schema before line rows).messages) :
    ∃ index row, rows[index]? = some row ∧ schema.Reports row (line + index) message := by
  induction rows generalizing before line with
  | nil => cases h
  | cons row rows ih =>
      rcases Check.mem_messages_bind h with hrow | ⟨_, hrest⟩
      · exact ⟨0, row, rfl, reports_of_judgeRow hrow⟩
      · obtain ⟨index, other, hother, hreports⟩ := ih hrest
        refine ⟨index + 1, other, hother, ?_⟩
        rwa [Nat.add_comm index, ← Nat.add_assoc]

theorem reports_of_checkFeed {feed : Feed}
    (h : message ∈ (checker.checkFeed schema feed).messages) :
    message = emptyMessage ∨
      ∃ index row, feed.rows[index]? = some row ∧ schema.Reports row (index + 1) message := by
  rw [checkFeed_eq_judge] at h
  rcases Check.mem_messages_bind h with hjudge | ⟨_, hempty⟩
  · right
    obtain ⟨index, row, hrow, hreports⟩ := reports_of_judge hjudge
    simp only [Schema.firstLine, Schema.dataRows] at hrow hreports
    cases hheader : schema.hasHeader with
    | false =>
        simp only [hheader, Bool.false_eq_true, if_false] at hrow hreports
        exact ⟨index, row, hrow, Nat.add_comm 1 index ▸ hreports⟩
    | true =>
        simp only [hheader, if_true, List.getElem?_drop] at hrow hreports
        refine ⟨1 + index, row, hrow, ?_⟩
        rwa [Nat.add_comm 1, Nat.add_assoc, Nat.add_comm index]
  · left
    split at hempty
    · exact Check.mem_messages_report hempty
    · cases hempty

end Checker

namespace Engine

/-! Lines of a file -/

-- In a file without carriage returns outside of its cells every line ends with a line
-- feed. A run over it gives each report on a row the number of the row, which is the line
-- that the row begins on exactly if no cell before it holds a line feed.
theorem line_eq_startLine_iff (engine : Engine) (files : FileTree) (schema : Schema)
    (path encoding : String) (checksUtf8 : Bool) (display : Option Display) {source : Csv.Source}
    (hsource : rowSource? files path encoding checksUtf8 = some source)
    (haccepted : source.rows.fault = none)
    (hreturn : source.text.count '\r' = Csv.tableCount '\r' source.rows.rows) :
    let rows := source.rows.rows
    let run := (engine.validateFile files schema path encoding checksUtf8 display).1
    ∀ message ∈ run.messages, message = emptyMessage ∨
      ∃ index row line, rows[index]? = some row ∧ schema.Reports row (index + 1) message ∧
        (∀ other, Csv.StartsOn ',' source.text index other ↔ other = line) ∧
        (message.line = some (line : Int) ↔
          ∀ earlier ∈ rows.take index, ∀ cell ∈ earlier, '\n' ∉ cell.toList) := by
  intro rows run message hmessage
  have hread : Csv.read? ',' source.text = some rows := by
    refine Csv.Source.read?_text ?_ haccepted
    rw [delimiter_of_ofPath (eq_of_rowSource? hsource).1]
    rfl
  have hchecked : message ∈ ((engine.checker files).checkFeed schema (.ofFile source.rows)).messages := by
    obtain ⟨total, hrun⟩ : ∃ total,
        run = engine.rowsRun files schema (.ofFile source.rows) display total := by
      simp only [run, validateFile_eq]
      exact fileRun_of_fault_eq_none hsource haccepted display
    have hmessages : run.messages =
        ((engine.checker files).checkFeed schema (.ofFile source.rows)).messages :=
      hrun ▸ (Job.run_eq_checkFeed _ (.ofFile source.rows)).1
    rwa [hmessages] at hmessage
  refine (Checker.reports_of_checkFeed hchecked).imp_right ?_
  rintro ⟨index, row, hrow, hreports⟩
  have hindex : index < rows.length := (List.getElem?_eq_some_iff.mp hrow).1
  refine ⟨index, row, index + 1 + Csv.tableCount '\n' (rows.take index), hrow, hreports,
    fun other => Csv.startsOn_iff hread hreturn hindex, ?_⟩
  rw [hreports.line_eq, ← Csv.tableCount_eq_zero_iff, Option.some.injEq]
  omega

-- A cell with a line break, and a row behind it.
def brokenFiles : FileTree where
  entries := [(["a.csv"], .file (Text.Utf8.encode "\"a\nb\"\nx\n".toList))]
  workingDirectory := []

def brokenSource : Csv.Source where
  path := "a.csv"
  content := Text.Utf8.encode "\"a\nb\"\nx\n".toList
  encoding := "utf-8"
  delimiter := ","

def brokenRun : Run :=
  (validateFile {} brokenFiles emptyCells "a.csv" "utf-8" true none).1

theorem line_eq_startLine_iff_of_brokenFiles :
    rowSource? brokenFiles "a.csv" "utf-8" true = some brokenSource ∧
      brokenSource.rows = ⟨[["a\nb"], ["x"]], none⟩ ∧
      brokenSource.text.count '\r' = Csv.tableCount '\r' brokenSource.rows.rows ∧
      ∀ message ∈ brokenRun.messages, message = emptyMessage ∨
        ∃ index row line, brokenSource.rows.rows[index]? = some row ∧
          emptyCells.Reports row (index + 1) message ∧
          (∀ other, Csv.StartsOn ',' brokenSource.text index other ↔ other = line) ∧
          (message.line = some (line : Int) ↔
            ∀ earlier ∈ brokenSource.rows.rows.take index, ∀ cell ∈ earlier, '\n' ∉ cell.toList) := by
  have hsource : rowSource? brokenFiles "a.csv" "utf-8" true = some brokenSource := by cbv
  have hrows : brokenSource.rows = ⟨[["a\nb"], ["x"]], none⟩ := by cbv
  have hreturn : brokenSource.text.count '\r' = Csv.tableCount '\r' brokenSource.rows.rows := by cbv
  exact ⟨hsource, hrows, hreturn,
    line_eq_startLine_iff {} brokenFiles emptyCells "a.csv" "utf-8" true none hsource (by rw [hrows])
      hreturn⟩

-- The second row is reported on line 2 and begins on line 3.
theorem line_ne_startLine_of_brokenFiles :
    brokenSource.rows = ⟨[["a\nb"], ["x"]], none⟩ ∧
      brokenRun.messages.map (fun message => (message.text, message.line)) =
        [("empty fails for line: 1, column: A, value: \"a\nb\"", some 1),
          ("empty fails for line: 2, column: A, value: \"x\"", some 2)] ∧
      ∀ line, Csv.StartsOn ',' brokenSource.text 1 line ↔ line = 3 := by
  have hrows : brokenSource.rows = ⟨[["a\nb"], ["x"]], none⟩ := by cbv
  have hread : Csv.read? ',' brokenSource.text = some [["a\nb"], ["x"]] := by cbv
  refine ⟨hrows, by cbv, fun line => ?_⟩
  rw [Csv.startsOn_iff hread (by cbv) (by decide)]
  have hbefore : Csv.tableCount '\n' [["a\nb"]] = 1 := by cbv
  rw [List.take_succ_cons, List.take_zero, hbefore]

end Engine

end TableSchema
