import TableSchema.Proofs.Table.Directives
import TableSchema.Proofs.Table.References

namespace TableSchema

theorem Rule.Question.under_ignoreCase :
    Rule.Question.under .ignoreCase = Rule.Question.folded :=
  funext fun _ => if_pos rfl

namespace Checker

-- An answer that is yes whenever another one is has no report that the other one has not.
theorem mem_report_of_imp {holds holds' : Bool} {report : Message}
    (h : holds = true → holds' = true) :
    ∀ message ∈ (if holds' then none else some report),
      message ∈ (if holds then none else some report) := by
  cases holds with
  | true =>
      rw [h rfl]
      exact nofun
  | false =>
      cases holds' with
      | true => exact nofun
      | false => exact fun _ hmessage => hmessage

section Column

variable {checker : Checker} {schema : Schema} {data : List Csv.Row} {index : Nat} {column : Column}
  {rule : Rule} {row : Csv.Row} {count position : Nat}

-- A column in which letter case counts asks no other questions than such.
theorem isExact_of_question? {question : Rule.Question} (hcase : column.ignoreCase = false)
    (h : checker.question? schema (column, index) row = some question) : question.IsExact := by
  rw [Rule.Question.IsExact, context_of_question? h]
  exact hcase

theorem isExact_of_mem_questions {question : Rule.Question} (hcase : column.ignoreCase = false)
    {rows : List Csv.Row} (h : question ∈ checker.questions schema (column, index) rows) :
    question.IsExact := by
  obtain ⟨row, -, hrow⟩ := List.mem_filterMap.mp h
  exact isExact_of_question? hcase hrow

variable (hall : checker.failFast = false)
  (hjudge : (checker.judge schema [] schema.firstLine data).result = .ok ())

include hall hjudge

theorem judge_withDirective_ignoreCase (hcolumn : schema.columns[index]? = some column)
    (hrules : ∀ rule ∈ column.rules, rule.isElementary = true) :
    (checker.judge (schema.withDirective index .ignoreCase) [] schema.firstLine data).result =
      .ok () := by
  refine judge_withDirective_eq_ok hall hjudge nofun ?_
  intro found hfound rule hrule asked question hanswers
  rw [hcolumn] at hfound
  obtain rfl := Option.some.inj hfound
  rw [Rule.Question.under_ignoreCase]
  exact Rule.answer_folded_ne_error (hrules rule hrule) hanswers

variable (hrow : data[count]? = some row) (hcolumn : schema.columns[index]? = some column)
  (hrule : column.rules[position]? = some rule) (hcase : column.ignoreCase = false)
  (hmatch : column.matchIsFalse = false) (hrules : ∀ rule ∈ column.rules, rule.isElementary = true)

include hrow hcolumn hrule hcase hmatch hrules

-- A rule that is asked is reported on where it says no, and letter case may change what it says
-- in one direction only.
theorem exists_answers_withDirective_ignoreCase {question : Rule.Question}
    (hquestion : checker.question? schema (column, index) row = some question) :
    let message :=
      Cell.message { column, line := schema.firstLine + count, value := question.value } rule
    ∃ holds holds',
      checker.reportAt? schema data count index position = (if holds then none else some message) ∧
      checker.reportAt? (schema.withDirective index .ignoreCase) data count index position =
        (if holds' then none else some message) ∧
      (rule.isEased = true → holds = true → holds' = true) ∧
      (rule.isHardened = true → holds' = true → holds = true) ∧
      (rule.isEased = false → rule.isHardened = false → holds' = holds) := by
  intro message
  let cell : Cell := { column, line := schema.firstLine + count, value := question.value }
  have hexact := isExact_of_question? hcase hquestion
  have hother := judge_withDirective_ignoreCase hall hjudge hcolumn hrules
  obtain ⟨holds, holds', hanswer, hanswer', hbefore, hafter⟩ :=
    exists_answers_of_reportAt? hall hjudge hother nofun hrow hcolumn hrule hquestion
  have hfails : ∀ holds, isFailure column holds = !holds := by
    intro holds
    rw [isFailure, hmatch]
    cases holds <;> rfl
  have hkept : ∀ holds, isFailure (column.withDirective .ignoreCase) holds = !holds := fun holds =>
    (isFailure_withDirective_of_ne (by decide) column holds).trans (hfails holds)
  have hsame : Cell.message { cell with column := column.withDirective .ignoreCase } rule = message :=
    cell.message_withDirective_of_ne rule nofun
  rw [Rule.Question.under_ignoreCase] at hanswer'
  rw [hkept, hsame] at hafter
  rw [hfails] at hbefore
  refine ⟨holds, holds', ?_, ?_, fun heased hholds => ?_, fun hhardened hholds => ?_,
    fun heased hhardened => ?_⟩
  · rw [hbefore]
    cases holds <;> rfl
  · rw [hafter]
    cases holds' <;> rfl
  · subst hholds
    exact Except.ok.inj (hanswer'.symm.trans (Rule.answer_folded_of_isEased heased hexact hanswer _))
  · cases holds with
    | true => rfl
    | false =>
        have hfolded := Rule.answer_folded_of_isHardened hhardened
          (fun _ hasked => isExact_of_mem_questions hcase hasked) hexact hanswer
        rw [hanswer', hholds] at hfolded
        cases hfolded
  · have helementary := hrules rule (List.mem_of_getElem? hrule)
    exact Except.ok.inj (hanswer'.symm.trans ((Rule.answer_folded_of_isElementary helementary heased
      hhardened _ _ question).trans hanswer))

theorem reportAt?_withDirective_ignoreCase :
    let before := checker.reportAt? schema data count index position
    let after := checker.reportAt? (schema.withDirective index .ignoreCase) data count index position
    (rule.isEased = true → ∀ message ∈ after, message ∈ before) ∧
      (rule.isHardened = true → ∀ message ∈ before, message ∈ after) ∧
      (rule.isEased = false → rule.isHardened = false → after = before) := by
  intro before after
  cases hquestion : checker.question? schema (column, index) row with
  | none =>
      obtain ⟨hbefore, hafter⟩ := reportAt?_eq_none_of_question? hall hjudge
        (judge_withDirective_ignoreCase hall hjudge hcolumn hrules) nofun hrow hcolumn hrule hquestion
      rw [show before = none from hbefore, show after = none from hafter]
      simp
  | some question =>
      obtain ⟨holds, holds', hbefore, hafter, heased, hhardened, hother⟩ :=
        exists_answers_withDirective_ignoreCase hall hjudge hrow hcolumn hrule hcase hmatch hrules
          hquestion
      rw [show before = _ from hbefore, show after = _ from hafter]
      refine ⟨fun h message hmessage => ?_, fun h message hmessage => ?_, fun h h' => ?_⟩
      · exact mem_report_of_imp (heased h) message hmessage
      · exact mem_report_of_imp (hhardened h) message hmessage
      · rw [hother h h']

end Column

end Checker

namespace Engine

-- Without letter case a column is reported on less often for what has to be alike, and more often
-- for what must not be. There is no other change in a run.
theorem ignoreCase_reports_monotone (engine : Engine) (files : FileTree) (schema : Schema)
    (rows : List Csv.Row) (size total : Option Int) (display : Option Display) {index : Nat}
    {column : Column} (hall : engine.failFast = false)
    (hcolumn : schema.columns[index]? = some column) (hcase : column.ignoreCase = false)
    (hmatch : column.matchIsFalse = false) (hrules : ∀ rule ∈ column.rules, rule.isElementary = true)
    (hanswers : (engine.validate files schema { rows, size } display total).1.fault = none) :
    let run (schema : Schema) := (engine.validate files schema { rows, size } display total).1
    let data := schema.dataRows rows
    let report (schema : Schema) := (engine.checker files).reportAt? schema data
    let caseless := schema.withDirective index .ignoreCase
    (run schema).messages = schema.arranged rows (report schema) ∧
      (run caseless).fault = none ∧
      (run caseless).messages = schema.arranged rows (report caseless) ∧
      (∀ count other position, other ≠ index →
        report caseless count other position = report schema count other position) ∧
      ∀ count position rule, column.rules[position]? = some rule →
        let before := report schema count index position
        let after := report caseless count index position
        (rule.isEased = true → ∀ message ∈ after, message ∈ before) ∧
          (rule.isHardened = true → ∀ message ∈ before, message ∈ after) ∧
          (rule.isEased = false → rule.isHardened = false → after = before) := by
  intro run data report caseless
  have hjudge : ((engine.checker files).judge schema [] schema.firstLine data).result = .ok () :=
    (engine.validate_fault_eq_none_iff_judge _ _ _ _ _ _ hall).mp hanswers
  have hcaseless := Checker.judge_withDirective_ignoreCase hall hjudge hcolumn hrules
  obtain ⟨hfault, hmessages⟩ := messages_validate_withDirective hall hcaseless size total display
  refine ⟨messages_validate_eq_arranged hall hanswers, hfault, hmessages,
    fun count other position hne =>
      Checker.reportAt?_withDirective_of_ne hall hjudge hcaseless hne count position, ?_⟩
  intro count position rule hrule
  cases hrow : data[count]? with
  | none =>
      have hnone : ∀ other, report other count index position = none := by
        intro other
        simp only [report, Checker.reportAt?, hrow]
        rfl
      simp [hnone]
  | some row =>
      exact Checker.reportAt?_withDirective_ignoreCase hall hjudge hrow hcolumn hrule hcase hmatch
        hrules

-- Parts of a title that are not a sharp s and do not repeat.
def titlePart : Column where
  name := "part"
  rules := [.compare .within (.column "title"), .compare .different (.text "\u00DF"), .unique,
    .notEmpty]
  directives := []

def titleParts : Schema where
  hasHeader := false
  permitEmpty := false
  columns := [titlePart, { name := "title", rules := [], directives := [] }]

-- A sharp s is folded to the two letters that are the other part.
def sharpParts : List Csv.Row :=
  [["\u00DF", "STRASSE"], ["SS", "class"]]

def sharpRun (schema : Schema) : Run :=
  (validate {} .bare schema { rows := sharpParts } none none).1

def sharpLines (schema : Schema) : List (Option Int × Option String) :=
  (sharpRun schema).messages.map fun message => (message.line, message.culprit)

theorem ignoreCase_reports_monotone_of_sharpParts :
    let report (schema : Schema) := (Engine.checker {} .bare).reportAt? schema sharpParts
    let caseless := titleParts.withDirective 0 .ignoreCase
    titlePart.ignoreCase = false ∧ titlePart.matchIsFalse = false ∧
      (∀ rule ∈ titlePart.rules, rule.isElementary = true) ∧ (sharpRun titleParts).fault = none ∧
      (sharpRun caseless).fault = none ∧
      (sharpRun caseless).messages = titleParts.arranged sharpParts (report caseless) ∧
      (∀ message ∈ report caseless 0 0 0, message ∈ report titleParts 0 0 0) ∧
      (∀ message ∈ report titleParts 0 0 1, message ∈ report caseless 0 0 1) ∧
      (∀ message ∈ report titleParts 1 0 2, message ∈ report caseless 1 0 2) ∧
      report caseless 1 0 3 = report titleParts 1 0 3 ∧
      sharpLines titleParts = [(some 1, some "in($title)"), (some 1, some "not(\"\u00DF\")"),
        (some 2, some "in($title)")] ∧
      sharpLines caseless = [(some 1, some "not(\"\u00DF\")"), (some 2, some "not(\"\u00DF\")"),
        (some 2, some "unique")] := by
  intro report caseless
  have hcolumn : titleParts.columns[0]? = some titlePart := rfl
  have hrules : ∀ rule ∈ titlePart.rules, rule.isElementary = true := by
    simp [titlePart, Rule.isElementary]
  have hanswers : (sharpRun titleParts).fault = none := by cbv
  obtain ⟨-, hfault, harranged, -, hreports⟩ := ignoreCase_reports_monotone {} .bare titleParts
    sharpParts none none none rfl hcolumn rfl rfl hrules hanswers
  have hwithin := (hreports 0 0 _ rfl).1 rfl
  have hdifferent := (hreports 0 1 _ rfl).2.1 rfl
  have hunique := (hreports 1 2 _ rfl).2.1 rfl
  have hnotEmpty := (hreports 1 3 _ rfl).2.2 rfl rfl
  exact ⟨rfl, rfl, hrules, hanswers, hfault, harranged, hwithin, hdifferent, hunique, hnotEmpty,
    by cbv, by cbv⟩

end Engine

end TableSchema
