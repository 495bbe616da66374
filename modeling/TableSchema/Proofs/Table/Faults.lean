import TableSchema.Proofs.Schema.Invariants
import TableSchema.Proofs.Table.Answers
import TableSchema.Proofs.Table.FirstError

namespace TableSchema

namespace Checker

variable {checker : Checker} {schema : Schema} {rows : List Csv.Row}

-- Rules are asked the same, whether a run goes on behind errors or not.
theorem Asks.withFailFast (failFast : Bool) {asked : List Rule.Question} {question : Rule.Question}
    {rule : Rule} (h : checker.Asks schema rows asked question rule) :
    { checker with failFast }.Asks schema rows asked question rule := by
  obtain ⟨hrows, hentry, hquestion, hrule⟩ := h
  exact .intro hrows hentry hquestion hrule

theorem cell_eq_ok {row : Csv.Row} {column : Column} {name : String}
    (hwidth : row.length = schema.total) (hname : name ∈ schema.columnNames) :
    ∃ cell, (checker.context schema.columnNames row column).cell name = .ok cell := by
  obtain ⟨index, hindex⟩ := Option.isSome_iff_exists.mp (List.isSome_idxOf?.mpr hname)
  have hlt : index < row.length := by
    have h := (List.idxOf?_eq_some_iff.mp hindex).1
    rw [hwidth, Schema.total]
    simpa [Schema.columnNames] using h
  refine ⟨row[index], ?_⟩
  simp [Rule.Context.cell, context, hindex, List.getElem?_eq_getElem hlt]

-- In a row of the width of the schema there is a cell for every column that a
-- rule refers to.
theorem Asks.hasCells {asked : List Rule.Question} {question : Rule.Question} {rule : Rule}
    (hreferences : Schema.ReferencesDefined schema.columns)
    (h : checker.Asks schema rows asked question rule) : question.HasCells rule := by
  obtain ⟨-, hentry, hquestion, hrule⟩ := h
  rename_i row entry
  rw [question?] at hquestion
  split at hquestion
  · rename_i hwidth
    obtain ⟨value, -, rfl⟩ := Option.map_eq_some_iff.mp hquestion
    have hcolumn : entry.1 ∈ schema.columns := List.fst_mem_of_mem_zipIdx hentry
    intro name hname
    exact cell_eq_ok hwidth (hreferences _ hcolumn rule hrule name hname)
  · cases hquestion

end Checker

theorem Run.exists_outcome_eq_ok_iff {run : Run} :
    (∃ messages, run.outcome = .ok messages) ↔ run.fault = none := by
  constructor
  · rintro ⟨messages, h⟩
    cases hf : run.fault with
    | none => rfl
    | some fault => simp [outcome, hf] at h
  · intro h
    exact ⟨run.messages, outcome_of_fault_eq_none h⟩

namespace Engine

variable {engine : Engine} {files : FileTree} {text : String} {schema : Schema} {rows : List Csv.Row}
  {size total : Option Int} {display : Option Display}

theorem validate_fault_eq_none_iff_unanswered (hall : engine.failFast = false)
    (hparse : (Schema.parse text).result = .ok schema) :
    (engine.validate files schema { rows, size } display total).1.fault = none ↔
      ∀ asked question rule fault,
        (engine.checker files).Asks schema (schema.dataRows rows) asked question rule →
          ¬rule.Unanswered asked question fault := by
  rw [validate_fault_eq_none_iff_judge engine files schema rows size total display hall,
    Checker.judge_eq_ok_iff_answers hall]
  have hanswer : ∀ asked question rule,
      (engine.checker files).Asks schema (schema.dataRows rows) asked question rule →
        ∀ fault, rule.answer asked question = .error fault ↔ rule.Unanswered asked question fault := by
    intro asked question rule hasks fault
    have hcells := hasks.hasCells (Schema.referencesDefined_of_parse hparse)
    obtain ⟨-, hentry, -, hrule⟩ := hasks
    rename_i entry
    have hcolumn : entry.1 ∈ schema.columns := List.fst_mem_of_mem_zipIdx hentry
    exact Rule.answer_eq_error_iff (Schema.hasOrderedBounds_of_parse hparse _ hcolumn rule hrule) hcells
  constructor
  · intro h asked question rule fault hasks hun
    exact h asked question rule hasks fault ((hanswer _ _ _ hasks fault).mpr hun)
  · intro h asked question rule hasks fault he
    exact h asked question rule fault hasks ((hanswer _ _ _ hasks fault).mp he)

-- A run that stops at the first error ends in no fault if it reports an error, or
-- if the run that goes on behind errors ends in none.
theorem failFast_fault_eq_none_iff (hfast : engine.failFast = true) :
    (engine.validate files schema { rows, size } display total).1.fault = none ↔
      (engine.validate files schema { rows, size } display total).1.messages.any Message.isError =
          true ∨
        ({ engine with failFast := false }.validate files schema { rows, size } display
          total).1.fault = none := by
  let check := ({ engine with failFast := false }.checker files).checkFeed schema { rows, size }
  have hstop : (engine.checker files).checkFeed schema { rows, size } = check.stoppedAtError := by
    rw [checkFeed_eq_stoppedAtError, if_pos hfast]
  obtain ⟨hmessages, hfault⟩ :
      (engine.validate files schema { rows, size } display total).1.messages =
          ((engine.checker files).checkFeed schema { rows, size }).messages ∧
        (engine.validate files schema { rows, size } display total).1.fault =
          Job.faultOf none ((engine.checker files).checkFeed schema { rows, size }).result :=
    Job.run_eq_checkFeed _ { rows, size }
  have hall : ({ engine with failFast := false }.validate files schema { rows, size } display
      total).1.fault = Job.faultOf none check.result := (Job.run_eq_checkFeed _ { rows, size }).2
  rw [hmessages, hfault, hall, hstop]
  cases he : check.messages.any Message.isError with
  | true =>
      have hreported : check.stoppedAtError.messages.any Message.isError = true := by
        rw [Check.messages_stoppedAtError, Message.any_isError_throughFirstError, he]
      rw [hreported, Check.stoppedAtError_of_error he]
      exact iff_of_true rfl (.inl rfl)
  | false => simp [Check.stoppedAtError_of_no_error he, he]

-- A run over a schema that was read comes to its end unless it asks a rule that
-- has no answer, or reports an error before that and stops there.
theorem validate_outcome_eq_ok_iff (engine : Engine) (files : FileTree) {text : String}
    {schema : Schema} (hparse : (Schema.parse text).result = .ok schema) (rows : List Csv.Row)
    (size total : Option Int) (display : Option Display) :
    let run := (engine.validate files schema { rows, size } display total).1
    (∃ messages, run.outcome = .ok messages) ↔
      (engine.failFast = true ∧ run.messages.any Message.isError = true) ∨
        ∀ asked question rule fault,
          (engine.checker files).Asks schema (schema.dataRows rows) asked question rule →
            ¬rule.Unanswered asked question fault := by
  intro run
  rw [Run.exists_outcome_eq_ok_iff]
  cases hfast : engine.failFast with
  | false =>
      rw [validate_fault_eq_none_iff_unanswered hfast hparse]
      simp
  | true =>
      rw [failFast_fault_eq_none_iff hfast, validate_fault_eq_none_iff_unanswered rfl hparse]
      have hasks : ∀ asked question rule,
          ({ engine with failFast := false }.checker files).Asks schema (schema.dataRows rows) asked
            question rule ↔
            (engine.checker files).Asks schema (schema.dataRows rows) asked question rule := by
        intro asked question rule
        constructor
        · exact fun h => h.withFailFast engine.failFast
        · exact fun h => h.withFailFast false
      simp only [hasks, true_and]
      rfl

-- Paths of files, one in each row.
def pathsText : String :=
  "@TotalColumns 1 @noHeader\nA: fileExists"

def pathsSchema : Schema where
  hasHeader := false
  permitEmpty := false
  columns := [{ name := "A", rules := [.fileExists none], directives := [] }]

-- A path that is a broken URI is no failure of the rule.
theorem validate_undecided_of_pathsText :
    (Schema.parse pathsText).result = .ok pathsSchema ∧
      (validate {} .bare pathsSchema { rows := [["file://["]] } none none).1.outcome =
        .error (.undecided (.path (.uri .brackets))) := by
  exact ⟨by cbv, by cbv⟩

-- A path that leads nowhere is one, and the run stops there.
theorem validate_outcome_eq_ok_iff_of_pathsText :
    let engine : Engine := { failFast := true }
    let run := (engine.validate .bare pathsSchema { rows := [["a.csv"]] } none none).1
    (Schema.parse pathsText).result = .ok pathsSchema ∧
      ((∃ messages, run.outcome = .ok messages) ↔
        (engine.failFast = true ∧ run.messages.any Message.isError = true) ∨
          ∀ asked question rule fault,
            (engine.checker .bare).Asks pathsSchema [["a.csv"]] asked question rule →
              ¬rule.Unanswered asked question fault) := by
  intro engine run
  have hparse : (Schema.parse pathsText).result = .ok pathsSchema := by cbv
  exact ⟨hparse, engine.validate_outcome_eq_ok_iff .bare hparse [["a.csv"]] none none none⟩

end Engine

end TableSchema
