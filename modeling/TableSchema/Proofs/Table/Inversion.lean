import TableSchema.Proofs.Table.Directives

namespace TableSchema

-- The same report, which does not fail a table.
def Message.asWarning (message : Message) : Message :=
  { message with severity := .warning }

theorem Cell.message_withDirective_warning (cell : Cell) (rule : Rule) :
    Cell.message { cell with column := cell.column.withDirective .warning } rule =
      (cell.message rule).asWarning := by
  have hwarning : (cell.column.withDirective .warning).isWarning = true :=
    cell.column.contains_withDirective_self .warning
  simp only [message, hwarning, if_true]
  rfl

namespace Checker

theorem isFailure_withDirective_matchIsFalse {column : Column} (h : column.matchIsFalse = false)
    (holds : Bool) :
    isFailure (column.withDirective .matchIsFalse) holds = !isFailure column holds := by
  have hinverted : (column.withDirective .matchIsFalse).matchIsFalse = true :=
    column.contains_withDirective_self .matchIsFalse
  rw [isFailure, isFailure, hinverted, h]
  cases holds <;> rfl

section Column

variable {checker : Checker} {schema : Schema} {data : List Csv.Row} {index : Nat} {column : Column}
  {rule : Rule} {row : Csv.Row} {count position : Nat} (hall : checker.failFast = false)
  (hjudge : (checker.judge schema [] schema.firstLine data).result = .ok ())
  (hrow : data[count]? = some row) (hcolumn : schema.columns[index]? = some column)
  (hrule : column.rules[position]? = some rule)

include hall hjudge hrow hcolumn hrule

-- A rule is reported on in exactly one of both runs, and in both with the same report.
theorem reportAt?_withDirective_matchIsFalse (hmatch : column.matchIsFalse = false) {value : String}
    (hwidth : row.length = schema.total) (hvalue : row[index]? = some value)
    (hlook : (column.isOptional && value.isEmpty) = false) :
    let message := Cell.message { column, line := schema.firstLine + count, value } rule
    let before := checker.reportAt? schema data count index position
    let after := checker.reportAt? (schema.withDirective index .matchIsFalse) data count index position
    (before = some message ∧ after = none) ∨ (before = none ∧ after = some message) := by
  intro message before after
  let cell : Cell := { column, line := schema.firstLine + count, value }
  have hquestion : checker.question? schema (column, index) row = _ :=
    question?_of_value hwidth hvalue
  have hother : (checker.judge (schema.withDirective index .matchIsFalse) [] schema.firstLine
      data).result = .ok () := judge_withDirective_of_ne hall hjudge nofun nofun
  rw [hlook, if_neg Bool.false_ne_true] at hquestion
  obtain ⟨holds, hbefore, hafter⟩ := exists_answer_withDirective_of_ne hall hjudge hother nofun hrow
    hcolumn hrule nofun hquestion
  have hsame : Cell.message { cell with column := column.withDirective .matchIsFalse } rule =
      message := cell.message_withDirective_of_ne rule nofun
  rw [isFailure_withDirective_matchIsFalse hmatch, hsame] at hafter
  rw [show before = _ from hbefore, show after = _ from hafter]
  cases isFailure column holds with
  | true => exact .inl ⟨rfl, rfl⟩
  | false => exact .inr ⟨rfl, rfl⟩

theorem reportAt?_withDirective_warning :
    checker.reportAt? (schema.withDirective index .warning) data count index position =
      (checker.reportAt? schema data count index position).map Message.asWarning := by
  have hother : (checker.judge (schema.withDirective index .warning) [] schema.firstLine
      data).result = .ok () := judge_withDirective_of_ne hall hjudge nofun nofun
  cases hquestion : checker.question? schema (column, index) row with
  | none =>
      obtain ⟨hbefore, hafter⟩ :=
        reportAt?_eq_none_of_question? hall hjudge hother nofun hrow hcolumn hrule hquestion
      rw [hbefore, hafter, Option.map_none]
  | some question =>
      let cell : Cell := { column, line := schema.firstLine + count, value := question.value }
      obtain ⟨holds, hbefore, hafter⟩ := exists_answer_withDirective_of_ne hall hjudge hother nofun hrow
        hcolumn hrule nofun hquestion
      have hwarning : Cell.message { cell with column := column.withDirective .warning } rule =
          (cell.message rule).asWarning := cell.message_withDirective_warning rule
      have hfails : isFailure (column.withDirective .warning) holds = isFailure column holds :=
        isFailure_withDirective_of_ne (by decide) column holds
      rw [hfails, hwarning] at hafter
      rw [hbefore, hafter]
      cases isFailure column holds with
      | true => rfl
      | false => rfl

end Column

end Checker

namespace Engine

-- A column whose answers are inverted is reported on for the rules that it was not reported on
-- for before. A column with warnings is reported on for the same rules. Neither makes a difference
-- to other columns or to the places of the reports.
theorem directive_reports_eq (engine : Engine) (files : FileTree) (schema : Schema)
    (rows : List Csv.Row) (size total : Option Int) (display : Option Display) {index : Nat}
    {column : Column} (hall : engine.failFast = false)
    (hcolumn : schema.columns[index]? = some column)
    (hanswers : (engine.validate files schema { rows, size } display total).1.fault = none) :
    let run (schema : Schema) := (engine.validate files schema { rows, size } display total).1
    let data := schema.dataRows rows
    let report (schema : Schema) := (engine.checker files).reportAt? schema data
    let inverted := schema.withDirective index .matchIsFalse
    let lenient := schema.withDirective index .warning
    (run schema).messages = schema.arranged rows (report schema) ∧
      (column.matchIsFalse = false →
        (run inverted).fault = none ∧
        (run inverted).messages = schema.arranged rows (report inverted) ∧
        (∀ count other position, other ≠ index →
          report inverted count other position = report schema count other position) ∧
        ∀ count row value position rule, data[count]? = some row → row.length = schema.total →
          row[index]? = some value → column.rules[position]? = some rule →
            let message := Cell.message { column, line := schema.firstLine + count, value } rule
            let before := report schema count index position
            let after := report inverted count index position
            if column.isOptional && value.isEmpty then before = none ∧ after = none
            else (before = some message ∧ after = none) ∨ (before = none ∧ after = some message)) ∧
      (run lenient).fault = none ∧
      (run lenient).messages = schema.arranged rows fun count other position =>
        (report schema count other position).map fun message =>
          if other = index then message.asWarning else message := by
  intro run data report inverted lenient
  have hjudge : ((engine.checker files).judge schema [] schema.firstLine data).result = .ok () :=
    (engine.validate_fault_eq_none_iff_judge _ _ _ _ _ _ hall).mp hanswers
  refine ⟨messages_validate_eq_arranged hall hanswers, fun hmatch => ?_, ?_⟩
  · have hinverted : ((engine.checker files).judge inverted [] schema.firstLine data).result = .ok () :=
      Checker.judge_withDirective_of_ne hall hjudge nofun nofun
    obtain ⟨hfault, hmessages⟩ := messages_validate_withDirective hall hinverted size total display
    refine ⟨hfault, hmessages, fun count other position hne =>
      Checker.reportAt?_withDirective_of_ne hall hjudge hinverted hne count position, ?_⟩
    intro count row value position rule hrow hwidth hvalue hrule message before after
    split
    · rename_i hskip
      have hquestion : (engine.checker files).question? schema (column, index) row = _ :=
        Checker.question?_of_value hwidth hvalue
      rw [if_pos hskip] at hquestion
      exact Checker.reportAt?_eq_none_of_question? hall hjudge hinverted nofun hrow hcolumn hrule
        hquestion
    · rename_i hlook
      exact Checker.reportAt?_withDirective_matchIsFalse hall hjudge hrow hcolumn hrule hmatch hwidth
        hvalue (Bool.eq_false_iff.mpr hlook)
  · have hlenient : ((engine.checker files).judge lenient [] schema.firstLine data).result = .ok () :=
      Checker.judge_withDirective_of_ne hall hjudge nofun nofun
    obtain ⟨hfault, hmessages⟩ := messages_validate_withDirective hall hlenient size total display
    refine ⟨hfault, hmessages.trans (Schema.arranged_congr ?_)⟩
    intro count row other found position rule hrow hfound hrule
    by_cases hother : other = index
    · subst hother
      simp only [if_true]
      exact Checker.reportAt?_withDirective_warning hall hjudge hrow hfound hrule
    · simp only [if_neg hother, Option.map_id']
      exact Checker.reportAt?_withDirective_of_ne hall hjudge hlenient hother count position

-- Codes that may be left out and do not repeat.
def optionalCode : Column where
  name := "code"
  rules := [.unique, .or .uuid4 .unique]
  directives := [.isOptional]

-- Behind each code a note that is not the code.
def optionalCodes : Schema where
  hasHeader := true
  permitEmpty := false
  columns := [optionalCode,
    { name := "note", rules := [.compare .different (.column "code")], directives := [] }]

-- The second row has no code, the third one is short, and the last one repeats the code.
def untidyCodes : List Csv.Row :=
  [["code", "note"], ["a", "b"], ["", "b"], ["a"], ["a", "a"]]

def untidyRun (schema : Schema) : Run :=
  (validate {} .bare schema { rows := untidyCodes } none none).1

-- The run, which comes to its end.
def untidyEnd : { run : Run // run.fault = none } :=
  ⟨untidyRun optionalCodes, by cbv⟩

theorem directive_reports_eq_of_untidyCodes :
    let data := optionalCodes.dataRows untidyCodes
    let report (schema : Schema) := (Engine.checker {} .bare).reportAt? schema data
    let inverted := optionalCodes.withDirective 0 .matchIsFalse
    let lenient := optionalCodes.withDirective 0 .warning
    let message := Cell.message { column := optionalCode, line := 5, value := "a" } .unique
    (untidyRun optionalCodes).fault = none ∧ (untidyRun inverted).fault = none ∧
      (untidyRun inverted).messages = optionalCodes.arranged untidyCodes (report inverted) ∧
      (report optionalCodes 3 0 0 = some message ∧ report inverted 3 0 0 = none ∨
        report optionalCodes 3 0 0 = none ∧ report inverted 3 0 0 = some message) ∧
      (report optionalCodes 1 0 0 = none ∧ report inverted 1 0 0 = none) ∧
      (untidyRun lenient).messages = (optionalCodes.arranged untidyCodes fun count other position =>
        (report optionalCodes count other position).map fun message =>
          if other = 0 then message.asWarning else message) ∧
      (untidyRun optionalCodes).messages.map Message.culprit = [some "@TotalColumns", some "unique",
        some "uuid4 or unique", some "not($code)"] ∧
      (untidyRun inverted).messages.map Message.culprit = [some "unique", some "uuid4 or unique",
        some "@TotalColumns", some "not($code)"] := by
  intro data report inverted lenient message
  have hcolumn : optionalCodes.columns[0]? = some optionalCode := rfl
  have hanswers : (untidyRun optionalCodes).fault = none := untidyEnd.property
  obtain ⟨-, hinverted, -, hlenient⟩ := directive_reports_eq {} .bare optionalCodes untidyCodes
    none none none rfl hcolumn hanswers
  obtain ⟨hfault, harranged, -, hcomplement⟩ := hinverted rfl
  have hrepeated := hcomplement 3 _ _ 0 _ rfl rfl rfl rfl
  have hskipped := hcomplement 1 _ _ 0 _ rfl rfl rfl rfl
  exact ⟨hanswers, hfault, harranged, hrepeated, hskipped, hlenient, by cbv, by cbv⟩

end Engine

end TableSchema
