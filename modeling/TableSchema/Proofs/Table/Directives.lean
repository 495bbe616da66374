import TableSchema.Proofs.Rule.Folding
import TableSchema.Proofs.Table.Arrangement

namespace TableSchema

/-! Columns and questions -/

namespace Column

-- The column with one more directive.
def withDirective (column : Column) (directive : Directive) : Column :=
  { column with directives := column.directives ++ [directive] }

variable (column : Column) {directive other : Directive}

theorem contains_withDirective_self (directive : Directive) :
    (column.withDirective directive).directives.contains directive = true := by
  simp [withDirective]

theorem contains_withDirective_of_ne (h : directive ≠ other) :
    (column.withDirective directive).directives.contains other = column.directives.contains other := by
  simp [withDirective, Ne.symm h]

theorem isOptional_withDirective (h : directive ≠ .isOptional) :
    (column.withDirective directive).isOptional = column.isOptional :=
  column.contains_withDirective_of_ne h

theorem isWarning_withDirective (h : directive ≠ .warning) :
    (column.withDirective directive).isWarning = column.isWarning :=
  column.contains_withDirective_of_ne h

theorem matchIsFalse_withDirective (h : directive ≠ .matchIsFalse) :
    (column.withDirective directive).matchIsFalse = column.matchIsFalse :=
  column.contains_withDirective_of_ne h

theorem ignoreCase_withDirective (h : directive ≠ .ignoreCase) :
    (column.withDirective directive).ignoreCase = column.ignoreCase :=
  column.contains_withDirective_of_ne h

end Column

-- The question that a column with the directive puts in the place of another one.
def Rule.Question.under (directive : Directive) (question : Rule.Question) : Rule.Question :=
  if directive = .ignoreCase then question.folded else question

theorem Rule.Question.under_of_ne {directive : Directive} (h : directive ≠ .ignoreCase) :
    Rule.Question.under directive = id :=
  funext fun _ => if_neg h

namespace Schema

-- The schema with one more directive in a column.
def withDirective (schema : Schema) (index : Nat) (directive : Directive) : Schema :=
  { schema with
    columns := schema.columns.modify index fun column => column.withDirective directive }

variable {schema : Schema} {index : Nat} {column : Column} (directive : Directive)

theorem columns_withDirective (i : Nat) :
    (schema.withDirective index directive).columns[i]? = schema.columns[i]?.map fun column =>
      if i = index then column.withDirective directive else column := by
  simp only [withDirective, List.getElem?_modify, eq_comm (a := index)]
  rfl

theorem columns_withDirective_self (h : schema.columns[index]? = some column) :
    (schema.withDirective index directive).columns[index]? =
      some (column.withDirective directive) := by
  rw [columns_withDirective, h, Option.map_some, if_pos rfl]

theorem columns_withDirective_of_ne {i : Nat} (h : i ≠ index) :
    (schema.withDirective index directive).columns[i]? = schema.columns[i]? := by
  rw [columns_withDirective]
  simp only [if_neg h]
  exact Option.map_id'

theorem columnNames_withDirective (schema : Schema) (index : Nat) :
    (schema.withDirective index directive).columnNames = schema.columnNames := by
  refine List.ext_getElem? fun i => ?_
  rw [columnNames, List.getElem?_map, columns_withDirective, Option.map_map, columnNames,
    List.getElem?_map]
  congr 1
  funext column
  dsimp only [Function.comp]
  split
  · rfl
  · rfl

theorem zipIdx_columns_withDirective (schema : Schema) (index : Nat) :
    (schema.withDirective index directive).columns.zipIdx = schema.columns.zipIdx.map fun entry =>
      (if entry.2 = index then entry.1.withDirective directive else entry.1, entry.2) := by
  refine List.ext_getElem? fun i => ?_
  rw [List.getElem?_zipIdx, columns_withDirective, List.getElem?_map, List.getElem?_zipIdx,
    Option.map_map, Option.map_map]
  simp only [Nat.zero_add]
  rfl

-- A directive makes no difference to where reports have their places.
theorem arranged_withDirective (schema : Schema) (index : Nat) (rows : List Csv.Row)
    (report : Nat → Nat → Nat → Option Message) :
    (schema.withDirective index directive).arranged rows report = schema.arranged rows report := by
  have hrules : ∀ entry : Column × Nat,
      (if entry.2 = index then entry.1.withDirective directive else entry.1).rules =
        entry.1.rules := by
    intro entry
    split
    · rfl
    · rfl
  have htotal : (schema.withDirective index directive).total = schema.total :=
    List.length_modify ..
  rw [arranged, htotal]
  simp only [zipIdx_columns_withDirective, List.flatMap_map, hrules]
  rfl

end Schema

namespace Checker

variable {checker : Checker} {schema : Schema} {index : Nat} {directive : Directive}

theorem question?_of_withDirective (entry : Column × Nat) (row : Csv.Row) :
    checker.question? (schema.withDirective index directive) entry row =
      checker.question? schema entry row :=
  question?_of_columnNames (Schema.columnNames_withDirective directive schema index) entry
    entry.1.rules row

theorem questions_of_withDirective (entry : Column × Nat) (rows : List Csv.Row) :
    checker.questions (schema.withDirective index directive) entry rows =
      checker.questions schema entry rows :=
  List.filterMap_congr fun row _ => question?_of_withDirective entry row

theorem question?_of_value {entry : Column × Nat} {row : Csv.Row} {value : String}
    (hwidth : row.length = schema.total) (hvalue : row[entry.2]? = some value) :
    checker.question? schema entry row =
      if entry.1.isOptional && value.isEmpty then none
      else some { context := checker.context schema.columnNames row entry.1, value } := by
  rw [question?, if_pos hwidth, hvalue, Option.filter_some]
  cases entry.1.isOptional && value.isEmpty with
  | true => rfl
  | false => rfl

-- Which cells are looked at depends on no directive but the one for optional columns.
theorem question?_withDirective (h : directive ≠ .isOptional) (column : Column) (i : Nat)
    (row : Csv.Row) :
    checker.question? schema (column.withDirective directive, i) row =
      (checker.question? schema (column, i) row).map (Rule.Question.under directive) := by
  have hcontext : ∀ value, (⟨checker.context schema.columnNames row (column.withDirective directive),
      value⟩ : Rule.Question) =
        .under directive ⟨checker.context schema.columnNames row column, value⟩ := by
    intro value
    by_cases hcase : directive = .ignoreCase
    · subst hcase
      have hfolds : (column.withDirective .ignoreCase).ignoreCase = true :=
        column.contains_withDirective_self .ignoreCase
      simp only [Rule.Question.under, Rule.Question.folded, context, hfolds, if_true]
    · rw [Rule.Question.under_of_ne hcase, id, context, column.ignoreCase_withDirective hcase,
        context]
  simp only [question?, column.isOptional_withDirective h, hcontext]
  split
  · rw [Option.map_map]
    rfl
  · rfl

theorem questions_withDirective (h : directive ≠ .isOptional) (column : Column) (i : Nat)
    (rows : List Csv.Row) :
    checker.questions schema (column.withDirective directive, i) rows =
      (checker.questions schema (column, i) rows).map (Rule.Question.under directive) := by
  rw [questions, questions, List.map_filterMap]
  exact List.filterMap_congr fun row _ => question?_withDirective h column i row

theorem judged?_of_withDirective (before : List Csv.Row) (line : Nat) (row : Csv.Row)
    (entry : Column × Nat) (rule : Rule) :
    checker.judged? (schema.withDirective index directive) before line row entry rule =
      checker.judged? schema before line row entry rule := by
  rw [judged?, judged?, question?_of_withDirective, questions_of_withDirective]

/-! Runs with one more directive -/

section All

variable {data : List Csv.Row} (hall : checker.failFast = false)
  (hjudge : (checker.judge schema [] schema.firstLine data).result = .ok ())

include hall hjudge

-- Every rule keeps having answers if those of the column do.
theorem judge_withDirective_eq_ok (h : directive ≠ .isOptional)
    (hanswers : ∀ column, schema.columns[index]? = some column → ∀ rule ∈ column.rules,
      ∀ asked question, (∀ fault, rule.answer asked question ≠ .error fault) →
        ∀ fault, rule.answer (asked.map (.under directive)) (question.under directive) ≠
          .error fault) :
    (checker.judge (schema.withDirective index directive) [] schema.firstLine data).result =
      .ok () := by
  rw [judge_eq_ok_iff_answers hall] at hjudge ⊢
  rintro _ question rule ⟨hrows, hentry, hquestion, hrule⟩
  rw [Schema.zipIdx_columns_withDirective] at hentry
  obtain ⟨⟨column, i⟩, hplace, rfl⟩ := List.mem_map.mp hentry
  have hcolumn := List.mk_mem_zipIdx_iff_getElem?.mp hplace
  rw [question?_of_withDirective] at hquestion
  rw [questions_of_withDirective]
  by_cases hi : i = index
  · subst hi
    dsimp only at hquestion hrule ⊢
    rw [if_pos rfl] at hquestion hrule
    rw [if_pos rfl, questions_withDirective h]
    rw [question?_withDirective h] at hquestion
    obtain ⟨former, hformer, rfl⟩ := Option.map_eq_some_iff.mp hquestion
    exact hanswers column hcolumn rule hrule _ former
      (hjudge _ _ _ (.intro hrows hplace hformer hrule))
  · dsimp only at hquestion hrule ⊢
    rw [if_neg hi] at hquestion hrule
    rw [if_neg hi]
    exact hjudge _ _ _ (.intro hrows hplace hquestion hrule)

theorem judge_withDirective_of_ne (h : directive ≠ .isOptional) (hcase : directive ≠ .ignoreCase) :
    (checker.judge (schema.withDirective index directive) [] schema.firstLine data).result =
      .ok () := by
  refine judge_withDirective_eq_ok hall hjudge h fun _ _ rule _ asked question hanswers => ?_
  rwa [Rule.Question.under_of_ne hcase, List.map_id, id]

variable (hother : (checker.judge (schema.withDirective index directive) [] schema.firstLine
  data).result = .ok ())

include hother

-- Another column is reported on as before.
theorem reportAt?_withDirective_of_ne {i : Nat} (h : i ≠ index) (count position : Nat) :
    checker.reportAt? (schema.withDirective index directive) data count i position =
      checker.reportAt? schema data count i position := by
  have hsame : ∀ row column rule, data[count]? = some row → schema.columns[i]? = some column →
      column.rules[position]? = some rule →
        checker.reportAt? (schema.withDirective index directive) data count i position =
          checker.reportAt? schema data count i position := by
    intro row column rule hrow hcolumn hrule
    have hkept := (Schema.columns_withDirective_of_ne directive h).trans hcolumn
    rw [reportAt?_eq_judged? hall hother hrow hkept hrule, judged?_of_withDirective,
      reportAt?_eq_judged? hall hjudge hrow hcolumn hrule]
    rfl
  refine Option.ext fun message => ⟨fun hreport => ?_, fun hreport => ?_⟩
  · obtain ⟨row, column, rule, hrow, hcolumn, hrule⟩ := exists_of_reportAt? hreport
    rw [Schema.columns_withDirective_of_ne directive h] at hcolumn
    rwa [← hsame row column rule hrow hcolumn hrule]
  · obtain ⟨row, column, rule, hrow, hcolumn, hrule⟩ := exists_of_reportAt? hreport
    rwa [hsame row column rule hrow hcolumn hrule]

variable {column : Column} {rule : Rule} {row : Csv.Row} {count position : Nat}
  (h : directive ≠ .isOptional) (hrow : data[count]? = some row)
  (hcolumn : schema.columns[index]? = some column) (hrule : column.rules[position]? = some rule)

include h hrow hcolumn hrule

-- A rule of the column is asked the same before and after, apart from what letter case is to it.
theorem exists_answers_of_reportAt? {question : Rule.Question}
    (hquestion : checker.question? schema (column, index) row = some question) :
    let asked := checker.questions schema (column, index) (data.take count)
    let cell : Cell := { column, line := schema.firstLine + count, value := question.value }
    ∃ holds holds', rule.answer asked question = .ok holds ∧
      rule.answer (asked.map (.under directive)) (question.under directive) = .ok holds' ∧
      checker.reportAt? schema data count index position =
        (if isFailure column holds then some (cell.message rule) else none) ∧
      checker.reportAt? (schema.withDirective index directive) data count index position =
        if isFailure (column.withDirective directive) holds' then
          some (Cell.message { cell with column := column.withDirective directive } rule)
        else none := by
  intro asked cell
  have hvalue : (question.under directive).value = question.value := by
    simp only [Rule.Question.under]
    split
    · rfl
    · rfl
  have hnew : checker.question? (schema.withDirective index directive)
      (column.withDirective directive, index) row = some (question.under directive) := by
    rw [question?_of_withDirective, question?_withDirective h, hquestion, Option.map_some]
  obtain ⟨holds, hanswer, hreport⟩ :=
    exists_answer_of_reportAt? hall hjudge hrow hcolumn hrule hquestion
  obtain ⟨holds', hanswer', hreport'⟩ := exists_answer_of_reportAt? hall hother hrow
    (Schema.columns_withDirective_self directive hcolumn) hrule hnew
  rw [questions_of_withDirective, questions_withDirective h] at hanswer'
  rw [hvalue] at hreport'
  exact ⟨holds, holds', hanswer, hanswer', hreport, hreport'⟩

-- Where letter case is to the rule what it was, so is its answer.
theorem exists_answer_withDirective_of_ne (hcase : directive ≠ .ignoreCase) {question : Rule.Question}
    (hquestion : checker.question? schema (column, index) row = some question) :
    let cell : Cell := { column, line := schema.firstLine + count, value := question.value }
    ∃ holds,
      checker.reportAt? schema data count index position =
        (if isFailure column holds then some (cell.message rule) else none) ∧
      checker.reportAt? (schema.withDirective index directive) data count index position =
        if isFailure (column.withDirective directive) holds then
          some (Cell.message { cell with column := column.withDirective directive } rule)
        else none := by
  intro cell
  obtain ⟨holds, holds', hanswer, hanswer', hbefore, hafter⟩ :=
    exists_answers_of_reportAt? hall hjudge hother h hrow hcolumn hrule hquestion
  rw [Rule.Question.under_of_ne hcase, List.map_id, id, hanswer] at hanswer'
  obtain rfl := Except.ok.inj hanswer'
  exact ⟨holds, hbefore, hafter⟩

-- A cell that is not looked at is not reported on with the directive either.
theorem reportAt?_eq_none_of_question?
    (hquestion : checker.question? schema (column, index) row = none) :
    checker.reportAt? schema data count index position = none ∧
      checker.reportAt? (schema.withDirective index directive) data count index position = none := by
  have hnew : checker.question? (schema.withDirective index directive)
      (column.withDirective directive, index) row = none := by
    rw [question?_of_withDirective, question?_withDirective h, hquestion, Option.map_none]
  exact ⟨reportAt?_eq_none hall hjudge hrow hcolumn hrule hquestion,
    reportAt?_eq_none hall hother hrow (Schema.columns_withDirective_self directive hcolumn) hrule hnew⟩

end All

end Checker

theorem Cell.message_withDirective_of_ne (cell : Cell) (rule : Rule) {directive : Directive}
    (h : directive ≠ .warning) :
    Cell.message { cell with column := cell.column.withDirective directive } rule =
      cell.message rule := by
  simp only [message, cell.column.isWarning_withDirective h]
  rfl

theorem Checker.isFailure_withDirective_of_ne {directive : Directive} (h : directive ≠ .matchIsFalse)
    (column : Column) (holds : Bool) :
    isFailure (column.withDirective directive) holds = isFailure column holds := by
  rw [isFailure, isFailure, column.matchIsFalse_withDirective h]

-- A run over the schema with the directive says at the same places what it says there.
theorem Engine.messages_validate_withDirective {engine : Engine} {files : FileTree} {schema : Schema}
    {rows : List Csv.Row} {index : Nat} {directive : Directive} (hall : engine.failFast = false)
    (hjudge : ((engine.checker files).judge (schema.withDirective index directive) []
      schema.firstLine (schema.dataRows rows)).result = .ok ())
    (size total : Option Int) (display : Option Display) :
    let run := (engine.validate files (schema.withDirective index directive) { rows, size } display
      total).1
    run.fault = none ∧ run.messages = schema.arranged rows
      ((engine.checker files).reportAt? (schema.withDirective index directive)
        (schema.dataRows rows)) := by
  intro run
  have hfault : run.fault = none :=
    (engine.validate_fault_eq_none_iff_judge _ _ _ _ _ _ hall).mpr hjudge
  refine ⟨hfault, ?_⟩
  rw [← Schema.arranged_withDirective directive schema index]
  exact messages_validate_eq_arranged hall hfault

end TableSchema
