import TableSchema.Proofs.Rule.References
import TableSchema.Proofs.Table.Faults

namespace TableSchema

-- The cell of a row in the first column with a name.
def Schema.IsFirstCell (schema : Schema) (row : Csv.Row) (name cell : String) : Prop :=
  ∃ index : Nat, schema.columnNames[index]? = some name ∧
    (∀ other < index, schema.columnNames[other]? ≠ some name) ∧ row[index]? = some cell

namespace Check

variable {α β : Type}

theorem result_bind_eq_error_iff {first : Check α} {next : α → Check β} {halt : Halt} :
    (first >>= next).result = .error halt ↔
      first.result = .error halt ∨
        ∃ middle, first.result = .ok middle ∧ (next middle).result = .error halt := by
  cases h : first.result with
  | error other => simp [bind_of_error h]
  | ok middle => simp [bind_of_ok h]

theorem exists_of_result_each {check : α → Check Unit} {entries : List α} {halt : Halt}
    (h : (each check entries).result = .error halt) :
    ∃ entry ∈ entries, (check entry).result = .error halt := by
  induction entries with
  | nil => cases h
  | cons entry entries ih =>
      rcases result_bind_eq_error_iff.mp h with hfirst | ⟨_, -, hrest⟩
      · exact ⟨entry, List.mem_cons_self, hfirst⟩
      · obtain ⟨other, hother, hhalt⟩ := ih hrest
        exact ⟨other, List.mem_cons_of_mem _ hother, hhalt⟩

theorem result_report_ne_fault (failFast : Bool) (message : Message) (fault : Rule.Fault) :
    (report failFast message).result ≠ .error (.fault fault) := by
  simp only [report]
  split
  · intro h
    cases h
  · intro h
    cases h

end Check

namespace Checker

variable {checker : Checker} {schema : Schema} {before : List Csv.Row} {line : Nat}
  {row : Csv.Row} {fault : Rule.Fault}

/-! Faults of a check -/

theorem exists_answer_of_judgeRow
    (h : (checker.judgeRow schema before line row).result = .error (.fault fault)) :
    ∃ entry ∈ schema.columns.zipIdx, ∃ question, checker.question? schema entry row = some question ∧
      ∃ rule ∈ entry.1.rules,
        rule.answer (checker.questions schema entry before) question = .error fault := by
  simp only [judgeRow] at h
  split at h
  · obtain ⟨entry, hentry, hcell⟩ := Check.exists_of_result_each h
    simp only [judgeCell] at hcell
    split at hcell
    · cases hcell
    · rename_i question hquestion
      obtain ⟨rule, hrule, hjudge⟩ := Check.exists_of_result_each hcell
      refine ⟨entry, hentry, question, hquestion, rule, hrule, ?_⟩
      simp only [judgeRule] at hjudge
      split at hjudge
      · rename_i cause hanswer
        obtain ⟨⟩ := hjudge
        exact hanswer
      · split at hjudge
        · exact absurd hjudge (Check.result_report_ne_fault _ _ _)
        · cases hjudge
  · exact absurd h (Check.result_report_ne_fault _ _ _)

-- A fault that ends the check of some rows is the answer of a rule that is asked there.
theorem exists_asks_of_judge {rows : List Csv.Row}
    (h : (checker.judge schema before line rows).result = .error (.fault fault)) :
    ∃ asked question rule, checker.Asks schema (before ++ rows) asked question rule ∧
      rule.answer asked question = .error fault := by
  induction rows generalizing before line with
  | nil => cases h
  | cons row rows ih =>
      rcases Check.result_bind_eq_error_iff.mp h with hrow | ⟨_, -, hrest⟩
      · obtain ⟨entry, hentry, question, hquestion, rule, hrule, hanswer⟩ :=
          exists_answer_of_judgeRow hrow
        exact ⟨_, question, rule, .intro rfl hentry hquestion hrule, hanswer⟩
      · obtain ⟨asked, question, rule, hasks, hanswer⟩ := ih hrest
        rw [List.append_assoc, List.singleton_append] at hasks
        exact ⟨asked, question, rule, hasks, hanswer⟩

theorem exists_asks_of_checkFeed {feed : Feed}
    (h : (checker.checkFeed schema feed).result = .error (.fault fault)) :
    ∃ asked question rule, checker.Asks schema (schema.dataRows feed.rows) asked question rule ∧
      rule.answer asked question = .error fault := by
  rw [checkFeed_eq_judge] at h
  rcases Check.result_bind_eq_error_iff.mp h with hjudge | ⟨_, -, hempty⟩
  · exact exists_asks_of_judge hjudge
  · split at hempty
    · exact absurd hempty (Check.result_report_ne_fault _ _ _)
    · cases hempty

/-! Cells that rules refer to -/

theorem isFirstCell_of_cell {column : Column} {name cell : String}
    (h : (checker.context schema.columnNames row column).cell name = .ok cell) :
    schema.IsFirstCell row name cell := by
  simp only [Rule.Context.cell, context] at h
  split at h
  · cases h
  · rename_i index hindex
    split at h
    · cases h
    · rename_i found hfound
      obtain rfl := Except.ok.inj h
      obtain ⟨hlt, hname, hearlier⟩ := List.idxOf?_eq_some_iff.mp hindex
      refine ⟨index, List.getElem?_eq_some_iff.mpr ⟨hlt, hname⟩, fun other hother hsame => ?_, hfound⟩
      obtain ⟨_, hagain⟩ := List.getElem?_eq_some_iff.mp hsame
      exact hearlier other hother hagain

theorem context_of_question? {entry : Column × Nat} {question : Rule.Question}
    (h : checker.question? schema entry row = some question) :
    question.context = checker.context schema.columnNames row entry.1 := by
  simp only [question?] at h
  split at h
  · obtain ⟨value, -, rfl⟩ := Option.map_eq_some_iff.mp h
    rfl
  · cases h

-- With the first cells of the columns that a rule refers to in their places, the rule
-- answers and remembers the same, whatever it remembered before.
theorem exists_cells_of_asks (hreferences : Schema.ReferencesDefined schema.columns)
    {rows : List Csv.Row} {entry : Column × Nat} {question : Rule.Question} {rule : Rule}
    (hrow : row ∈ rows) (hentry : entry ∈ schema.columns.zipIdx)
    (hquestion : checker.question? schema entry row = some question) (hrule : rule ∈ entry.1.rules) :
    ∃ cells : String → String,
      (∀ name ∈ rule.references, schema.IsFirstCell row name (cells name)) ∧
        ∀ memory, (rule.filled cells).evaluate question.context question.value memory =
          rule.evaluate question.context question.value memory := by
  obtain ⟨front, after, hrows⟩ := List.append_of_mem hrow
  have hcells : question.HasCells rule :=
    Asks.hasCells hreferences (.intro hrows hentry hquestion hrule)
  choose! cells hcell using hcells
  refine ⟨cells, fun name hname => ?_, Rule.evaluate_filled hcell question.value⟩
  have h := hcell name hname
  rw [context_of_question? hquestion] at h
  exact isFirstCell_of_cell h

end Checker

namespace Engine

-- In a run over a schema that was read every column that a rule refers to is found, and so
-- is its cell. The rules answer as if the cells of the row in the first columns with these
-- names were written in their places. This holds for both sides of an alternative and for
-- the roots of paths. Rows of another width are asked nothing.
theorem references_read_firstCell (engine : Engine) (files : FileTree) {text : String}
    {schema : Schema} (hparse : (Schema.parse text).result = .ok schema) (feed : Feed)
    (display : Option Display) (total : Option Int) :
    let checker := engine.checker files
    let run := (engine.validate files schema feed display total).1
    (∀ fault, run.fault = some (.undecided fault) → fault.isLookup = false) ∧
      ∀ row ∈ schema.dataRows feed.rows, ∀ entry ∈ schema.columns.zipIdx,
        ∀ question ∈ checker.question? schema entry row, ∀ rule ∈ entry.1.rules,
          ∃ cells : String → String,
            (∀ name ∈ rule.references, schema.IsFirstCell row name (cells name)) ∧
              (rule.filled cells).references = [] ∧
              ∀ memory, (rule.filled cells).evaluate question.context question.value memory =
                rule.evaluate question.context question.value memory := by
  intro checker run
  have hreferences := Schema.referencesDefined_of_parse hparse
  constructor
  · intro fault hfault
    have hrun : run.fault = Job.faultOf feed.fault (checker.checkFeed schema feed).result :=
      (Job.run_eq_checkFeed _ feed).2
    have hcheck : (checker.checkFeed schema feed).result = .error (.fault fault) := by
      rw [hfault] at hrun
      rcases hresult : (checker.checkFeed schema feed).result with (_ | cause) | ⟨⟩
      · simp [hresult, Job.faultOf] at hrun
      · simp only [hresult, Job.faultOf, Option.some.injEq, RunFault.undecided.injEq] at hrun
        rw [hrun]
      · simp [hresult, Job.faultOf] at hrun
    obtain ⟨asked, question, rule, hasks, hanswer⟩ := Checker.exists_asks_of_checkFeed hcheck
    have hcells := hasks.hasCells hreferences
    obtain ⟨-, hentry, -, hrule⟩ := hasks
    have hordered := Schema.hasOrderedBounds_of_parse hparse _ (List.fst_mem_of_mem_zipIdx hentry)
      rule hrule
    exact ((Rule.answer_eq_error_iff hordered hcells).mp hanswer).isLookup_eq_false
  · intro row hrow entry hentry question hquestion rule hrule
    obtain ⟨cells, hfirst, hsame⟩ :=
      Checker.exists_cells_of_asks hreferences hrow hentry hquestion hrule
    exact ⟨cells, hfirst, Rule.references_filled cells rule, hsame⟩

-- Two columns have one name. It is the root of a path, and one side of an alternative.
def echoText : String :=
  "@TotalColumns 3 @noHeader
A: unique or is($B)
B:
B: fileExists($B)"

def echoSchema : Schema where
  hasHeader := false
  permitEmpty := false
  columns := [
    { name := "A", rules := [.or .unique (.compare .equal (.column "B"))], directives := [] },
    { name := "B", rules := [], directives := [] },
    { name := "B", rules := [.fileExists (some (.column "B"))], directives := [] }]

-- Between two rows of the right width there is a short one.
def echoRows : List Csv.Row :=
  [["x", "x", "y"], ["x"], ["x", "x", "z"]]

theorem references_read_firstCell_of_echoText :
    let checker := Engine.checker {} .bare
    let run := (validate {} .bare echoSchema { rows := echoRows } none none).1
    let isAsked (row : Csv.Row) := echoSchema.columns.zipIdx.map fun entry =>
      (checker.question? echoSchema entry row).isSome
    (Schema.parse echoText).result = .ok echoSchema ∧
      echoRows.map isAsked = [[true, true, true], [false, false, false], [true, true, true]] ∧
      (∀ fault, run.fault = some (.undecided fault) → fault.isLookup = false) ∧
      ∀ row ∈ echoRows, ∀ entry ∈ echoSchema.columns.zipIdx,
        ∀ question ∈ checker.question? echoSchema entry row, ∀ rule ∈ entry.1.rules,
          ∃ cells : String → String,
            (∀ name ∈ rule.references, echoSchema.IsFirstCell row name (cells name)) ∧
              (rule.filled cells).references = [] ∧
              ∀ memory, (rule.filled cells).evaluate question.context question.value memory =
                rule.evaluate question.context question.value memory := by
  intro checker run isAsked
  have hparse : (Schema.parse echoText).result = .ok echoSchema := by cbv
  exact ⟨hparse, rfl, references_read_firstCell {} .bare hparse { rows := echoRows } none none⟩

end Engine

end TableSchema
