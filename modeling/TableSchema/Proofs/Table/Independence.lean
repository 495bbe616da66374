import TableSchema.Proofs.Table.Alternatives

namespace TableSchema

namespace Schema

-- The schema with one rule of a column and without all others.
def onlyRule (schema : Schema) (index position : Nat) : Schema :=
  { schema with
    columns := schema.columns.mapIdx fun i column =>
      { column with rules := if i = index then column.rules[position]?.toList else [] } }

-- Reports on rules in one list: row by row, in a row by columns, and in a column by rules.
def merged (schema : Schema) (rows : List Csv.Row) (reports : Nat → Nat → List Message) :
    List Message :=
  rows.zipIdx.flatMap fun (_, count) =>
    schema.columns.zipIdx.flatMap fun (column, index) =>
      column.rules.zipIdx.flatMap fun (_, position) =>
        (reports index position).filter fun message =>
          message.line == some ((schema.firstLine + count : Nat) : Int)

-- The report on a table without data rows, where there has to be one.
def emptyReports (schema : Schema) (rows : List Csv.Row) : List Message :=
  if (schema.dataRows rows).isEmpty && !schema.permitEmpty then [emptyMessage] else []

end Schema

-- The report on the width of a row has a line and no column.
def Message.isOnWidth (message : Message) : Bool :=
  message.line.isSome && message.column.isNone

namespace Checker

-- What a run reports on a rule of a column at a row, behind the rows before it.
def report? (checker : Checker) (schema : Schema) (before : List Csv.Row) (line : Nat)
    (row : Csv.Row) (index position : Nat) : Option Message := do
  let column ← schema.columns[index]?
  let rule ← column.rules[position]?
  let question ← checker.question? schema (column, index) row
  let holds ← (← checker.answer? schema before row index position).toOption
  if isFailure column holds then
    some (Cell.message { column, line, value := question.value } rule)
  else none

-- What a run over some data rows reports on a rule of a column.
def ruleReports (checker : Checker) (schema : Schema) (rows : List Csv.Row) (index position : Nat) :
    List Message :=
  rows.zipIdx.filterMap fun (row, count) =>
    checker.report? schema (rows.take count) (schema.firstLine + count) row index position

end Checker

/-! Entries and their places -/

theorem eq_take_append_of_mem_zipIdx {α : Type} {entries : List α} {first : α} {count : Nat}
    (h : (first, count) ∈ entries.zipIdx) :
    entries = entries.take count ++ first :: entries.drop (count + 1) := by
  obtain ⟨hlt, rfl⟩ := List.getElem?_eq_some_iff.mp (List.mk_mem_zipIdx_iff_getElem?.mp h)
  rw [List.getElem_cons_drop, List.take_append_drop]

theorem flatMap_zipIdx_of_index {α β : Type} (entries : List α) {start index place : Nat}
    (hplace : place = start + index) (next : α × Nat → List β) :
    ((entries.zipIdx start).flatMap fun entry => if entry.2 = place then next entry else []) =
      entries[index]?.toList.flatMap fun entry => next (entry, place) := by
  induction entries generalizing start index with
  | nil => rfl
  | cons first entries ih =>
      rw [List.zipIdx_cons, List.flatMap_cons]
      cases index with
      | zero =>
          have hrest : ((entries.zipIdx (start + 1)).flatMap fun entry =>
              if entry.2 = place then next entry else []) = [] := by
            refine List.flatMap_eq_nil_iff.mpr fun entry hentry => if_neg ?_
            have hle := (List.mem_zipIdx hentry).1
            omega
          obtain rfl : place = start := hplace
          simp [hrest]
      | succ index =>
          have hsum : place = start + 1 + index := by omega
          have hne : start ≠ place := by omega
          simp only [if_neg hne, List.nil_append, ih hsum, List.getElem?_cons_succ]

/-! Reports by answers -/

namespace Check

theorem messages_each_of_ok {α : Type} {check : α → Check Unit} {entries : List α}
    (h : (each check entries).result = .ok ()) :
    (each check entries).messages = entries.flatMap fun entry => (check entry).messages := by
  induction entries with
  | nil => rfl
  | cons entry entries ih =>
      obtain ⟨_, hfirst, hrest⟩ := result_bind_eq_ok_iff.mp h
      rw [each, bind_of_ok hfirst, ih hrest, List.flatMap_cons]

end Check

namespace Checker

variable {checker : Checker} {schema : Schema} {before : List Csv.Row} {line : Nat}
  {row : Csv.Row} {entry : Column × Nat}

-- The report that the answer of a rule of a column demands.
def judged? (checker : Checker) (schema : Schema) (before : List Csv.Row) (line : Nat)
    (row : Csv.Row) (entry : Column × Nat) (rule : Rule) : Option Message := do
  let question ← checker.question? schema entry row
  let holds ← (rule.answer (checker.questions schema entry before) question).toOption
  if isFailure entry.1 holds then
    some (Cell.message { column := entry.1, line, value := question.value } rule)
  else none

theorem messages_judgeRule (asked : List Rule.Question) (question : Rule.Question) (cell : Cell)
    (rule : Rule) :
    (checker.judgeRule asked question cell rule).messages =
      ((rule.answer asked question).toOption.bind fun holds =>
        if isFailure cell.column holds then some (cell.message rule) else none).toList := by
  cases hanswer : rule.answer asked question with
  | error fault =>
      simp only [judgeRule, hanswer]
      rfl
  | ok holds =>
      simp only [judgeRule, hanswer, Except.toOption, Option.bind_some]
      split
      · rfl
      · rfl

theorem messages_judgeCell_of_ok
    (h : (checker.judgeCell schema before line row entry).result = .ok ()) :
    (checker.judgeCell schema before line row entry).messages =
      entry.1.rules.filterMap (checker.judged? schema before line row entry) := by
  simp only [judgeCell] at h ⊢
  cases hquestion : checker.question? schema entry row with
  | none =>
      have hnone : checker.judged? schema before line row entry = fun _ => none := by
        funext rule
        simp only [judged?, hquestion]
        rfl
      rw [hnone, List.filterMap_none]
      rfl
  | some question =>
      simp only [hquestion] at h
      rw [Check.messages_each_of_ok h, List.filterMap_eq_flatMap_toList]
      refine List.flatMap_congr fun rule _ => ?_
      rw [messages_judgeRule, judged?, hquestion]
      rfl

theorem judged?_of_width (hwidth : row.length ≠ schema.total) (rule : Rule) :
    checker.judged? schema before line row entry rule = none := by
  simp only [judged?, question?, if_neg hwidth]
  rfl

-- The reports on a row of the right width are those on its rules, and on another row there
-- is the one on its width.
theorem messages_judgeRow_of_ok (h : (checker.judgeRow schema before line row).result = .ok ()) :
    (checker.judgeRow schema before line row).messages =
      if row.length = schema.total then
        schema.columns.zipIdx.flatMap fun entry =>
          entry.1.rules.filterMap (checker.judged? schema before line row entry)
      else [widthMessage schema.total row.length line] := by
  simp only [judgeRow] at h ⊢
  split
  · rename_i hwidth
    rw [if_pos hwidth] at h
    rw [Check.messages_each_of_ok h]
    refine List.flatMap_congr fun entry hentry => messages_judgeCell_of_ok ?_
    exact Check.result_each_eq_ok_iff.mp h entry hentry
  · rfl

theorem messages_judge_of_ok {rows : List Csv.Row}
    (h : (checker.judge schema before line rows).result = .ok ()) :
    (checker.judge schema before line rows).messages =
      rows.zipIdx.flatMap fun (row, count) =>
        (checker.judgeRow schema (before ++ rows.take count) (line + count) row).messages := by
  induction rows generalizing before line with
  | nil => rfl
  | cons row rows ih =>
      obtain ⟨_, hrow, hrest⟩ := Check.result_bind_eq_ok_iff.mp h
      rw [judge, Check.bind_of_ok hrow, ih hrest, List.zipIdx_cons, List.flatMap_cons,
        Nat.zero_add, List.zipIdx_succ, List.flatMap_map]
      simp only [List.take_zero, List.append_nil, Nat.add_zero, List.take_succ_cons,
        List.append_assoc, List.singleton_append, Nat.add_assoc, Nat.add_comm 1]

theorem line_of_judged? {rule : Rule} {message : Message}
    (h : checker.judged? schema before line row entry rule = some message) :
    message.line = some (line : Int) ∧ message.isOnWidth = false := by
  obtain ⟨question, -, h⟩ := Option.bind_eq_some_iff.mp h
  obtain ⟨holds, -, h⟩ := Option.bind_eq_some_iff.mp h
  split at h
  · obtain rfl := Option.some.inj h
    exact ⟨rfl, rfl⟩
  · cases h

-- The reports on all rules, in the order of a run.
def cellReports (checker : Checker) (schema : Schema) (rows : List Csv.Row) : List Message :=
  rows.zipIdx.flatMap fun (row, count) =>
    schema.columns.zipIdx.flatMap fun entry =>
      entry.1.rules.filterMap
        (checker.judged? schema (rows.take count) (schema.firstLine + count) row entry)

theorem filter_messages_judgeRow (h : (checker.judgeRow schema before line row).result = .ok ()) :
    (checker.judgeRow schema before line row).messages.filter (fun message => !message.isOnWidth) =
      schema.columns.zipIdx.flatMap fun entry =>
        entry.1.rules.filterMap (checker.judged? schema before line row entry) := by
  rw [messages_judgeRow_of_ok h]
  split
  · refine List.filter_eq_self.mpr fun message hmessage => ?_
    obtain ⟨entry, -, hentry⟩ := List.mem_flatMap.mp hmessage
    obtain ⟨rule, -, hrule⟩ := List.mem_filterMap.mp hentry
    rw [(line_of_judged? hrule).2, Bool.not_false]
  · rename_i hwidth
    simp [judged?_of_width hwidth, Message.isOnWidth, widthMessage]

theorem filter_messages_judge (hall : checker.failFast = false) {rows : List Csv.Row}
    (h : (checker.judge schema [] schema.firstLine rows).result = .ok ()) :
    (checker.judge schema [] schema.firstLine rows).messages.filter
      (fun message => !message.isOnWidth) = checker.cellReports schema rows := by
  rw [messages_judge_of_ok h, List.filter_flatMap, cellReports]
  refine List.flatMap_congr ?_
  rintro ⟨row, count⟩ hrow
  have hrows := (judge_eq_ok_iff hall).mp h _ _ _ (eq_take_append_of_mem_zipIdx hrow)
  exact filter_messages_judgeRow (hrows (schema.firstLine + count))

/-! One rule by itself -/

theorem zipIdx_columns_onlyRule (schema : Schema) (index position : Nat) :
    (schema.onlyRule index position).columns.zipIdx = schema.columns.zipIdx.map fun entry =>
      ({ entry.1 with rules := if entry.2 = index then entry.1.rules[position]?.toList else [] },
        entry.2) := by
  refine List.ext_getElem? fun i => ?_
  simp only [Schema.onlyRule, List.getElem?_zipIdx, List.getElem?_mapIdx, List.getElem?_map,
    Option.map_map, Nat.zero_add]
  rfl

theorem columnNames_onlyRule (schema : Schema) (index position : Nat) :
    (schema.onlyRule index position).columnNames = schema.columnNames := by
  refine List.ext_getElem? fun i => ?_
  simp only [Schema.columnNames, Schema.onlyRule, List.getElem?_map, List.getElem?_mapIdx,
    Option.map_map]
  rfl

theorem judged?_onlyRule (index position : Nat) (rules : List Rule) (rule : Rule) :
    checker.judged? (schema.onlyRule index position) before line row ({ entry.1 with rules }, entry.2)
        rule =
      checker.judged? schema before line row entry rule := by
  have hnames := columnNames_onlyRule schema index position
  rw [judged?, judged?, question?_of_columnNames hnames, questions_of_columnNames hnames]
  rfl

-- Without the other rules the reports are those on the one that is left.
theorem cellReports_onlyRule {index position : Nat} {column : Column} {rule : Rule}
    (hcolumn : schema.columns[index]? = some column) (hrule : column.rules[position]? = some rule)
    (rows : List Csv.Row) :
    checker.cellReports (schema.onlyRule index position) rows =
      rows.zipIdx.filterMap fun (row, count) =>
        checker.judged? schema (rows.take count) (schema.firstLine + count) row (column, index)
          rule := by
  rw [cellReports, List.filterMap_eq_flatMap_toList]
  refine List.flatMap_congr ?_
  rintro ⟨row, count⟩ -
  have hfirst : (schema.onlyRule index position).firstLine = schema.firstLine := rfl
  dsimp only
  rw [zipIdx_columns_onlyRule, List.flatMap_map, hfirst]
  simp only [judged?_onlyRule, apply_ite (List.filterMap _), List.filterMap_nil]
  rw [flatMap_zipIdx_of_index schema.columns (Nat.zero_add index).symm, hcolumn]
  simp [hrule, List.filterMap_eq_flatMap_toList]

-- A rule that has answers has them by itself.
theorem judge_onlyRule_eq_ok (hall : checker.failFast = false) {rows : List Csv.Row}
    (h : (checker.judge schema [] schema.firstLine rows).result = .ok ()) (index position : Nat) :
    (checker.judge (schema.onlyRule index position) [] schema.firstLine rows).result = .ok () := by
  rw [judge_eq_ok_iff_answers hall] at h ⊢
  rintro _ question rule ⟨hrows, hentry, hquestion, hrule⟩ fault
  have hnames := columnNames_onlyRule schema index position
  rw [zipIdx_columns_onlyRule] at hentry
  obtain ⟨entry, hplace, rfl⟩ := List.mem_map.mp hentry
  rw [question?_of_columnNames hnames] at hquestion
  rw [questions_of_columnNames hnames]
  have hmem : rule ∈ entry.1.rules := by
    dsimp only at hrule
    split at hrule
    · exact List.mem_of_getElem? (Option.mem_toList.mp hrule)
    · cases hrule
  exact h _ _ _ (.intro hrows hplace hquestion hmem) fault

/-! Reports of a run -/

section Rule

variable {index position : Nat} {column : Column} {rule : Rule}

theorem report?_eq_judged? (hall : checker.failFast = false) {after : List Csv.Row}
    (h : (checker.judge schema [] schema.firstLine (before ++ row :: after)).result = .ok ())
    (hcolumn : schema.columns[index]? = some column) (hrule : column.rules[position]? = some rule) :
    checker.report? schema before line row index position =
      checker.judged? schema before line row (column, index) rule := by
  cases hquestion : checker.question? schema (column, index) row with
  | none => simp [report?, judged?, hcolumn, hrule, hquestion]
  | some question =>
      obtain ⟨holds, hanswer, hholds⟩ := exists_answer?_of_judge hall h hcolumn hrule hquestion
      simp [report?, judged?, hcolumn, hrule, hquestion, hanswer, hholds]

theorem ruleReports_eq_judged? (hall : checker.failFast = false) {rows : List Csv.Row}
    (h : (checker.judge schema [] schema.firstLine rows).result = .ok ())
    (hcolumn : schema.columns[index]? = some column) (hrule : column.rules[position]? = some rule) :
    checker.ruleReports schema rows index position = rows.zipIdx.filterMap fun (row, count) =>
      checker.judged? schema (rows.take count) (schema.firstLine + count) row (column, index)
        rule := by
  refine List.filterMap_congr ?_
  rintro ⟨row, count⟩ hrow
  rw [eq_take_append_of_mem_zipIdx hrow] at h
  exact report?_eq_judged? hall h hcolumn hrule

-- A rule has one report at most on a line.
theorem filter_ruleReports (hall : checker.failFast = false) {rows : List Csv.Row} {count : Nat}
    (h : (checker.judge schema [] schema.firstLine rows).result = .ok ())
    (hcolumn : schema.columns[index]? = some column) (hrule : column.rules[position]? = some rule)
    (hrow : rows[count]? = some row) :
    (checker.ruleReports schema rows index position).filter
        (fun message => message.line == some ((schema.firstLine + count : Nat) : Int)) =
      (checker.judged? schema (rows.take count) (schema.firstLine + count) row (column, index)
        rule).toList := by
  have hone : ∀ entry : Csv.Row × Nat,
      ((checker.judged? schema (rows.take entry.2) (schema.firstLine + entry.2) entry.1
          (column, index) rule).filter fun message =>
        message.line == some ((schema.firstLine + count : Nat) : Int)).toList =
        if entry.2 = count then
          (checker.judged? schema (rows.take entry.2) (schema.firstLine + entry.2) entry.1
            (column, index) rule).toList
        else [] := by
    intro entry
    cases hreport : checker.judged? schema (rows.take entry.2) (schema.firstLine + entry.2) entry.1
        (column, index) rule with
    | none => simp
    | some message =>
        have hline := (line_of_judged? hreport).1
        by_cases hcount : entry.2 = count
        · simp [Option.filter_some, hline, hcount]
        · have hne : (schema.firstLine + entry.2 : Int) ≠ schema.firstLine + count := by omega
          simp [Option.filter_some, hline, hcount]
  rw [ruleReports_eq_judged? hall h hcolumn hrule, List.filter_filterMap,
    List.filterMap_eq_flatMap_toList]
  simp only [hone]
  rw [flatMap_zipIdx_of_index rows (Nat.zero_add count).symm, hrow]
  simp

end Rule

-- The reports of a run on cells are those on its rules, put together.
theorem merged_ruleReports (hall : checker.failFast = false) {rows : List Csv.Row}
    (h : (checker.judge schema [] schema.firstLine rows).result = .ok ()) :
    schema.merged rows (checker.ruleReports schema rows) = checker.cellReports schema rows := by
  rw [Schema.merged, cellReports]
  refine List.flatMap_congr ?_
  rintro ⟨row, count⟩ hrow
  refine List.flatMap_congr ?_
  rintro ⟨column, index⟩ hcolumn
  dsimp only
  have hrules : column.rules = column.rules.zipIdx.map Prod.fst := (List.zipIdx_map_fst 0 _).symm
  conv_rhs => rw [hrules, List.filterMap_map, List.filterMap_eq_flatMap_toList]
  refine List.flatMap_congr ?_
  rintro ⟨rule, position⟩ hrule
  exact filter_ruleReports hall h (List.mk_mem_zipIdx_iff_getElem?.mp hcolumn)
    (List.mk_mem_zipIdx_iff_getElem?.mp hrule) (List.mk_mem_zipIdx_iff_getElem?.mp hrow)

end Checker

namespace Engine

-- A run to the end reports on its data rows, and behind them perhaps that there is none.
theorem messages_validate_of_judge {engine : Engine} {files : FileTree} {schema : Schema}
    {rows : List Csv.Row} {size total : Option Int} {display : Option Display}
    (hjudge : ((engine.checker files).judge schema [] schema.firstLine
      (schema.dataRows rows)).result = .ok ()) :
    (engine.validate files schema { rows, size } display total).1.messages =
      ((engine.checker files).judge schema [] schema.firstLine (schema.dataRows rows)).messages ++
        schema.emptyReports rows := by
  have hmessages : (engine.validate files schema { rows, size } display total).1.messages =
      ((engine.checker files).checkFeed schema { rows, size }).messages :=
    (Job.run_eq_checkFeed _ { rows, size }).1
  have hempty : (schema.firstLine + (schema.dataRows rows).length == schema.firstLine) =
      (schema.dataRows rows).isEmpty := by
    cases schema.dataRows rows <;> simp
  rw [hmessages, Checker.checkFeed_eq_judge, Check.bind_of_ok hjudge, Schema.emptyReports]
  simp only [Option.isNone_none, Bool.true_and, hempty]
  split
  · rfl
  · rfl

-- Apart from widths a run reports on cells, and perhaps that there is no data row.
theorem filter_messages_validate {engine : Engine} {files : FileTree} {schema : Schema}
    {rows : List Csv.Row} {size total : Option Int} {display : Option Display}
    (hall : engine.failFast = false)
    (hanswers : (engine.validate files schema { rows, size } display total).1.fault = none) :
    (engine.validate files schema { rows, size } display total).1.messages.filter
        (fun message => !message.isOnWidth) =
      (engine.checker files).cellReports schema (schema.dataRows rows) ++ schema.emptyReports rows := by
  have hjudge := (validate_fault_eq_none_iff_judge _ _ _ _ _ _ _ hall).mp hanswers
  have hempty : (schema.emptyReports rows).filter (fun message => !message.isOnWidth) =
      schema.emptyReports rows := by
    rw [Schema.emptyReports]
    split <;> rfl
  rw [messages_validate_of_judge hjudge, List.filter_append,
    Checker.filter_messages_judge hall hjudge, hempty]

-- The reports of a run on a rule are those of the run over the schema in which there is
-- no other rule. All reports of the run are these, merged by rows, columns and rules,
-- next to those on widths and the one on a table without data rows.
theorem reports_eq_merged (engine : Engine) (files : FileTree) (schema : Schema)
    (rows : List Csv.Row) (size total : Option Int) (display : Option Display)
    (hall : engine.failFast = false)
    (hanswers : (engine.validate files schema { rows, size } display total).1.fault = none) :
    let run (schema : Schema) := (engine.validate files schema { rows, size } display total).1
    let data := schema.dataRows rows
    let reports := (engine.checker files).ruleReports schema data
    (∀ index column position rule, schema.columns[index]? = some column →
      column.rules[position]? = some rule →
        (run (schema.onlyRule index position)).fault = none ∧
          (run (schema.onlyRule index position)).messages.filter (fun message => !message.isOnWidth) =
            reports index position ++ schema.emptyReports rows) ∧
      (run schema).messages.filter (fun message => !message.isOnWidth) =
        schema.merged data reports ++ schema.emptyReports rows := by
  intro run data reports
  have hjudge := (validate_fault_eq_none_iff_judge _ _ _ _ _ _ _ hall).mp hanswers
  constructor
  · intro index column position rule hcolumn hrule
    have hfault : (run (schema.onlyRule index position)).fault = none :=
      (validate_fault_eq_none_iff_judge _ _ _ _ _ _ _ hall).mpr
        (Checker.judge_onlyRule_eq_ok hall hjudge index position)
    refine ⟨hfault, ?_⟩
    rw [filter_messages_validate hall hfault]
    have hcells : (engine.checker files).cellReports (schema.onlyRule index position) data =
        reports index position := by
      rw [Checker.cellReports_onlyRule hcolumn hrule]
      exact (Checker.ruleReports_eq_judged? hall hjudge hcolumn hrule).symm
    exact congrArg (· ++ schema.emptyReports rows) hcells
  · rw [filter_messages_validate hall hanswers, ← Checker.merged_ruleReports hall hjudge]

-- Two columns with one name, and in the first one three rules of which two are the same.
def twinColumns : Schema where
  hasHeader := false
  permitEmpty := false
  columns := [
    { name := "A", rules := [.or .unique .empty, .unique, .unique], directives := [] },
    { name := "A", rules := [.unique], directives := [.warning] }]

-- The third row is short, and the last one repeats both cells of the first one.
def twinRows : List Csv.Row :=
  [["x", "y"], ["", "x"], ["z"], ["x", "y"]]

theorem reports_eq_merged_of_twinRows :
    let run (schema : Schema) := (validate {} .bare schema { rows := twinRows } none none).1
    let reports := (Engine.checker {} .bare).ruleReports twinColumns twinRows
    (run twinColumns).fault = none ∧
      (run (twinColumns.onlyRule 0 2)).fault = none ∧
      (run (twinColumns.onlyRule 0 2)).messages.filter (fun message => !message.isOnWidth) =
        reports 0 2 ∧
      (run twinColumns).messages.filter (fun message => !message.isOnWidth) =
        twinColumns.merged twinRows reports := by
  intro run reports
  have hanswers : (validate {} .bare twinColumns { rows := twinRows } none none).1.fault = none := by
    cbv
  obtain ⟨halone, hmerged⟩ := reports_eq_merged {} .bare twinColumns twinRows none none none rfl
    hanswers
  obtain ⟨hfault, hreports⟩ := halone 0 _ 2 _ rfl rfl
  exact ⟨hanswers, hfault, hreports.trans (List.append_nil _), hmerged.trans (List.append_nil _)⟩

-- A header without data rows is reported, but by no rule.
theorem reports_ne_merged_of_header :
    let rows : List Csv.Row := [["A", "A"]]
    let schema : Schema := { twinColumns with hasHeader := true }
    let run := (validate {} .bare schema { rows } none none).1
    let reports := (Engine.checker {} .bare).ruleReports schema (schema.dataRows rows)
    run.fault = none ∧
      run.messages.filter (fun message => !message.isOnWidth) ≠
        schema.merged (schema.dataRows rows) reports := by
  intro rows schema run reports
  have hmessages : run.messages.filter (fun message => !message.isOnWidth) = [emptyMessage] := rfl
  have hmerged : schema.merged (schema.dataRows rows) reports = [] := rfl
  refine ⟨rfl, ?_⟩
  rw [hmessages, hmerged]
  exact List.cons_ne_nil _ _

end Engine

end TableSchema
