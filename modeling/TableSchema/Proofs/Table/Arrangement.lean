import TableSchema.Proofs.Table.Independence

namespace TableSchema

namespace Schema

-- Reports in the order of a run: at each data row what is said of each rule of each column, or
-- that the row has another width. Behind them it may be said that there is no data row.
def arranged (schema : Schema) (rows : List Csv.Row) (report : Nat → Nat → Nat → Option Message) :
    List Message :=
  ((schema.dataRows rows).zipIdx.flatMap fun (row, count) =>
    if row.length = schema.total then
      schema.columns.zipIdx.flatMap fun (column, index) =>
        column.rules.zipIdx.filterMap fun (_, position) => report count index position
    else [widthMessage schema.total row.length (schema.firstLine + count)]) ++
  schema.emptyReports rows

-- What is said of no rule at no row does not matter.
theorem arranged_congr {schema : Schema} {rows : List Csv.Row}
    {report other : Nat → Nat → Nat → Option Message}
    (h : ∀ count row index column position rule, (schema.dataRows rows)[count]? = some row →
      schema.columns[index]? = some column → column.rules[position]? = some rule →
        report count index position = other count index position) :
    schema.arranged rows report = schema.arranged rows other := by
  refine congrArg (· ++ schema.emptyReports rows) (List.flatMap_congr ?_)
  rintro ⟨row, count⟩ hrow
  dsimp only
  split
  · refine List.flatMap_congr ?_
    rintro ⟨column, index⟩ hcolumn
    refine List.filterMap_congr ?_
    rintro ⟨rule, position⟩ hrule
    exact h count row index column position rule (List.mk_mem_zipIdx_iff_getElem?.mp hrow)
      (List.mk_mem_zipIdx_iff_getElem?.mp hcolumn) (List.mk_mem_zipIdx_iff_getElem?.mp hrule)
  · rfl

end Schema

namespace Checker

-- What a run over some data rows reports on a rule of a column at one of them.
def reportAt? (checker : Checker) (schema : Schema) (data : List Csv.Row)
    (count index position : Nat) : Option Message := do
  let row ← data[count]?
  checker.report? schema (data.take count) (schema.firstLine + count) row index position

section Places

variable {checker : Checker} {schema : Schema} {data : List Csv.Row} {row : Csv.Row}
  {column : Column} {rule : Rule} {count index position : Nat}

-- There is nothing to report where there is no rule.
theorem exists_of_reportAt? {message : Message}
    (h : checker.reportAt? schema data count index position = some message) :
    ∃ row column rule, data[count]? = some row ∧ schema.columns[index]? = some column ∧
      column.rules[position]? = some rule := by
  obtain ⟨row, hrow, h⟩ := Option.bind_eq_some_iff.mp h
  obtain ⟨column, hcolumn, h⟩ := Option.bind_eq_some_iff.mp h
  obtain ⟨rule, hrule, -⟩ := Option.bind_eq_some_iff.mp h
  exact ⟨row, column, rule, hrow, hcolumn, hrule⟩

variable (hall : checker.failFast = false)
  (hjudge : (checker.judge schema [] schema.firstLine data).result = .ok ())
  (hrow : data[count]? = some row) (hcolumn : schema.columns[index]? = some column)
  (hrule : column.rules[position]? = some rule)

include hall hjudge hrow hcolumn hrule

theorem reportAt?_eq_judged? :
    checker.reportAt? schema data count index position =
      checker.judged? schema (data.take count) (schema.firstLine + count) row (column, index)
        rule := by
  have hdata := eq_take_append_of_mem_zipIdx (List.mk_mem_zipIdx_iff_getElem?.mpr hrow)
  rw [hdata] at hjudge
  rw [reportAt?, hrow]
  exact report?_eq_judged? hall hjudge hcolumn hrule

-- A rule that is asked has an answer, and a report if the answer is a failure.
theorem exists_answer_of_reportAt? {question : Rule.Question}
    (hquestion : checker.question? schema (column, index) row = some question) :
    ∃ holds,
      rule.answer (checker.questions schema (column, index) (data.take count)) question =
        .ok holds ∧
      checker.reportAt? schema data count index position =
        if isFailure column holds then
          some (Cell.message { column, line := schema.firstLine + count, value := question.value } rule)
        else none := by
  have hreport := reportAt?_eq_judged? hall hjudge hrow hcolumn hrule
  have hdata := eq_take_append_of_mem_zipIdx (List.mk_mem_zipIdx_iff_getElem?.mpr hrow)
  rw [hdata] at hjudge
  obtain ⟨holds, -, hanswer⟩ := exists_answer?_of_judge hall hjudge hcolumn hrule hquestion
  refine ⟨holds, hanswer, ?_⟩
  rw [hreport, judged?, hquestion, Option.bind_eq_bind, Option.bind_some, hanswer]
  rfl

-- A rule that is asked nothing has no report.
theorem reportAt?_eq_none (hquestion : checker.question? schema (column, index) row = none) :
    checker.reportAt? schema data count index position = none := by
  rw [reportAt?_eq_judged? hall hjudge hrow hcolumn hrule, judged?, hquestion]
  rfl

end Places

theorem messages_judge_eq_flatMap {checker : Checker} {schema : Schema} {data : List Csv.Row}
    (hall : checker.failFast = false)
    (hjudge : (checker.judge schema [] schema.firstLine data).result = .ok ()) :
    (checker.judge schema [] schema.firstLine data).messages =
      data.zipIdx.flatMap fun (row, count) =>
        if row.length = schema.total then
          schema.columns.zipIdx.flatMap fun (column, index) =>
            column.rules.zipIdx.filterMap fun (_, position) =>
              checker.reportAt? schema data count index position
        else [widthMessage schema.total row.length (schema.firstLine + count)] := by
  rw [messages_judge_of_ok hjudge]
  refine List.flatMap_congr ?_
  rintro ⟨row, count⟩ hmem
  have hrow := List.mk_mem_zipIdx_iff_getElem?.mp hmem
  have hchecked := (judge_eq_ok_iff hall).mp hjudge _ _ _ (eq_take_append_of_mem_zipIdx hmem)
  dsimp only
  rw [messages_judgeRow_of_ok (hchecked (schema.firstLine + count)), List.nil_append]
  refine if_congr Iff.rfl (List.flatMap_congr ?_) rfl
  rintro ⟨column, index⟩ hcolumn
  have hrules : column.rules = column.rules.zipIdx.map Prod.fst := (List.zipIdx_map_fst 0 _).symm
  dsimp only
  conv_lhs => rw [hrules, List.filterMap_map]
  refine List.filterMap_congr ?_
  rintro ⟨rule, position⟩ hrule
  exact (reportAt?_eq_judged? hall hjudge hrow (List.mk_mem_zipIdx_iff_getElem?.mp hcolumn)
    (List.mk_mem_zipIdx_iff_getElem?.mp hrule)).symm

end Checker

-- The messages of a run to the end are its reports on the rules, in their order.
theorem Engine.messages_validate_eq_arranged {engine : Engine} {files : FileTree} {schema : Schema}
    {rows : List Csv.Row} {size total : Option Int} {display : Option Display}
    (hall : engine.failFast = false)
    (hanswers : (engine.validate files schema { rows, size } display total).1.fault = none) :
    (engine.validate files schema { rows, size } display total).1.messages =
      schema.arranged rows ((engine.checker files).reportAt? schema (schema.dataRows rows)) := by
  have hjudge := (engine.validate_fault_eq_none_iff_judge _ _ _ _ _ _ hall).mp hanswers
  rw [Engine.messages_validate_of_judge hjudge, Checker.messages_judge_eq_flatMap hall hjudge,
    Schema.arranged]

end TableSchema
