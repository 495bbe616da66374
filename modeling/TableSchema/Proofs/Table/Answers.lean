import TableSchema.Proofs.Rule.Answers
import TableSchema.Proofs.Table.Findings

namespace TableSchema

namespace Check

variable {α β : Type}

theorem result_bind_eq_ok_iff {first : Check α} {next : α → Check β} {value : β} :
    (first >>= next).result = .ok value ↔
      ∃ middle, first.result = .ok middle ∧ (next middle).result = .ok value := by
  cases h : first.result with
  | error halt => simp [bind_of_error h]
  | ok middle => simp [bind_of_ok h]

-- The checks of several entries, one after the other.
def each (check : α → Check Unit) : List α → Check Unit
  | [] => pure ()
  | entry :: entries => do
    check entry
    each check entries

theorem result_each_eq_ok_iff {check : α → Check Unit} {entries : List α} :
    (each check entries).result = .ok () ↔ ∀ entry ∈ entries, (check entry).result = .ok () := by
  induction entries with
  | nil => exact iff_of_true rfl nofun
  | cons entry entries ih =>
      rw [each, result_bind_eq_ok_iff, List.forall_mem_cons]
      constructor
      · rintro ⟨_, hfirst, hrest⟩
        exact ⟨hfirst, ih.mp hrest⟩
      · rintro ⟨hfirst, hrest⟩
        exact ⟨(), hfirst, ih.mpr hrest⟩

end Check

namespace Checker

/-! What rules are asked -/

-- What the rules of a column are asked about a row. They are asked nothing if
-- the row has another width, or if the column leaves its cell out.
def question? (checker : Checker) (schema : Schema) (entry : Column × Nat) (row : Csv.Row) :
    Option Rule.Question :=
  if row.length = schema.total then
    (row[entry.2]?.filter fun value => !(entry.1.isOptional && value.isEmpty)).map fun value =>
      { context := checker.context schema.columnNames row entry.1, value }
  else none

def questions (checker : Checker) (schema : Schema) (entry : Column × Nat) (rows : List Csv.Row) :
    List Rule.Question :=
  rows.filterMap (checker.question? schema entry)

-- The track of a column behind some data rows.
def trackAfter (checker : Checker) (schema : Schema) (before : List Csv.Row)
    (entry : Column × Nat) : Track where
  column := entry.1
  rules := entry.1.rules.map fun rule =>
    (rule, rule.memoryAfter (checker.questions schema entry before))

def tracksAfter (checker : Checker) (schema : Schema) (before : List Csv.Row) : List Track :=
  schema.columns.zipIdx.map (checker.trackAfter schema before)

@[simp] theorem column_trackAfter (checker : Checker) (schema : Schema) (before : List Csv.Row)
    (entry : Column × Nat) : (checker.trackAfter schema before entry).column = entry.1 := rfl

theorem tracksAfter_nil (checker : Checker) (schema : Schema) :
    checker.tracksAfter schema [] = schema.columns.map Track.ofColumn := by
  have hfirst : checker.trackAfter schema [] = Track.ofColumn ∘ Prod.fst := rfl
  rw [tracksAfter, hfirst, ← List.map_map, List.zipIdx_map_fst]

/-! Checks without memories -/

-- The report on a rule, by its answers alone.
def judgeRule (checker : Checker) (asked : List Rule.Question) (question : Rule.Question)
    (cell : Cell) (rule : Rule) : Check Unit :=
  match rule.answer asked question with
  | .error fault => Check.halt (.fault fault)
  | .ok holds =>
    if isFailure cell.column holds then Check.report checker.failFast (cell.message rule)
    else pure ()

def judgeCell (checker : Checker) (schema : Schema) (before : List Csv.Row) (line : Nat)
    (row : Csv.Row) (entry : Column × Nat) : Check Unit :=
  match checker.question? schema entry row with
  | none => pure ()
  | some question =>
    Check.each (checker.judgeRule (checker.questions schema entry before) question
      { column := entry.1, line, value := question.value }) entry.1.rules

def judgeRow (checker : Checker) (schema : Schema) (before : List Csv.Row) (line : Nat)
    (row : Csv.Row) : Check Unit :=
  if row.length = schema.total then
    Check.each (checker.judgeCell schema before line row) schema.columns.zipIdx
  else Check.report checker.failFast (widthMessage schema.total row.length line)

-- The reports on the rows from a line on, where `before` are the data rows
-- before them.
def judge (checker : Checker) (schema : Schema) (before : List Csv.Row) (line : Nat) :
    List Csv.Row → Check Unit
  | [] => pure ()
  | row :: rows => do
    checker.judgeRow schema before line row
    checker.judge schema (before ++ [row]) (line + 1) rows

variable {checker : Checker} {schema : Schema}

theorem checkRule_eq_judgeRule (asked : List Rule.Question) (question : Rule.Question)
    {cell : Cell} (hcell : cell.value = question.value) (rule : Rule) :
    checker.checkRule question.context cell rule (rule.memoryAfter asked) =
      checker.judgeRule asked question cell rule >>= fun _ =>
        pure (rule, rule.memoryAfter (asked ++ [question])) := by
  rw [Rule.memoryAfter_concat]
  simp only [checkRule, judgeRule, Rule.answer, hcell]
  rcases rule.evaluate question.context question.value (rule.memoryAfter asked) with ⟨found, after⟩
  cases found with
  | error fault => rfl
  | ok holds =>
      dsimp only
      split
      · rfl
      · rfl

theorem checkRules_eq_judgeRule (asked : List Rule.Question) (question : Rule.Question)
    {cell : Cell} (hcell : cell.value = question.value) (rules : List Rule) :
    checker.checkRules question.context cell
        (rules.map fun rule => (rule, rule.memoryAfter asked)) =
      Check.each (checker.judgeRule asked question cell) rules >>= fun _ =>
        pure (rules.map fun rule => (rule, rule.memoryAfter (asked ++ [question]))) := by
  induction rules with
  | nil => rfl
  | cons rule rules ih =>
      simp only [List.map_cons, checkRules, Check.each, checkRule_eq_judgeRule asked question hcell,
        ih, Check.bind_assoc, Check.bind_pure_left]

-- What the rules of a column are asked depends on the names of all columns, but not on what rules
-- there are.
theorem question?_of_columnNames {other : Schema} (hnames : other.columnNames = schema.columnNames)
    (entry : Column × Nat) (rules : List Rule) (row : Csv.Row) :
    checker.question? other ({ entry.1 with rules }, entry.2) row =
      checker.question? schema entry row := by
  have htotal : other.total = schema.total := by
    have hlength := congrArg List.length hnames
    rwa [Schema.columnNames, Schema.columnNames, List.length_map, List.length_map] at hlength
  rw [question?, question?, htotal, hnames]
  rfl

theorem questions_of_columnNames {other : Schema} (hnames : other.columnNames = schema.columnNames)
    (entry : Column × Nat) (rules : List Rule) (rows : List Csv.Row) :
    checker.questions other ({ entry.1 with rules }, entry.2) rows =
      checker.questions schema entry rows :=
  List.filterMap_congr fun row _ => question?_of_columnNames hnames entry rules row

theorem questions_concat (entry : Column × Nat) (before : List Csv.Row) (row : Csv.Row) :
    checker.questions schema entry (before ++ [row]) =
      checker.questions schema entry before ++ (checker.question? schema entry row).toList := by
  rw [questions, List.filterMap_append]
  cases h : checker.question? schema entry row with
  | none => simp [questions, h]
  | some question => simp [questions, h]

theorem checkCell_eq_judgeCell (before : List Csv.Row) (line : Nat) {row : Csv.Row}
    {entry : Column × Nat} {value : String} (hwidth : row.length = schema.total)
    (hvalue : row[entry.2]? = some value) :
    checker.checkCell (checker.context schema.columnNames row entry.1) line
        (checker.trackAfter schema before entry) value =
      checker.judgeCell schema before line row entry >>= fun _ =>
        pure (checker.trackAfter schema (before ++ [row]) entry) := by
  let question : Rule.Question :=
    { context := checker.context schema.columnNames row entry.1, value }
  have hrules : checker.checkRules question.context { column := entry.1, line, value } _ = _ :=
    checkRules_eq_judgeRule (checker.questions schema entry before) question rfl entry.1.rules
  rw [trackAfter, trackAfter, questions_concat]
  simp only [checkCell, judgeCell, question?, hwidth, if_true, hvalue, Option.filter_some]
  cases hskip : entry.1.isOptional && value.isEmpty with
  | true => simp
  | false =>
      simp only [Bool.false_eq_true, if_false, Bool.not_false, if_true, Option.map_some,
        Option.toList_some]
      rw [hrules, Check.bind_assoc]
      rfl

theorem checkCells_eq_judgeCell (before : List Csv.Row) (line : Nat) {row : Csv.Row}
    {entries : List (Column × Nat)} {values : List String} (hwidth : row.length = schema.total)
    (hvalues : List.Forall₂ (fun entry value => row[entry.2]? = some value) entries values) :
    checker.checkCells schema.columnNames row line
        (entries.map (checker.trackAfter schema before)) values =
      Check.each (checker.judgeCell schema before line row) entries >>= fun _ =>
        pure (entries.map (checker.trackAfter schema (before ++ [row]))) := by
  induction hvalues with
  | nil => rfl
  | cons hvalue _ ih =>
      have hcell : checker.checkCell _ line _ _ = _ :=
        checkCell_eq_judgeCell before line hwidth hvalue
      simp only [List.map_cons, checkCells, column_trackAfter, hcell, ih, Check.each,
        Check.bind_assoc, Check.bind_pure_left]

theorem checkRow_eq_judgeRow (before : List Csv.Row) (line : Nat) (row : Csv.Row) :
    checker.checkRow schema line (checker.tracksAfter schema before) row =
      checker.judgeRow schema before line row >>= fun _ =>
        pure (checker.tracksAfter schema (before ++ [row])) := by
  by_cases hwidth : row.length = schema.total
  · have hvalues : List.Forall₂ (fun (entry : Column × Nat) value => row[entry.2]? = some value)
        schema.columns.zipIdx row := by
      rw [List.forall₂_iff_get]
      refine ⟨by simpa [Schema.total] using hwidth.symm, fun i hi hj => ?_⟩
      simp [List.getElem?_eq_getElem hj]
    simp only [checkRow, judgeRow, hwidth, ne_eq, not_true_eq_false, if_false, if_true]
    exact checkCells_eq_judgeCell before line hwidth hvalues
  · have hnone : ∀ entry, checker.question? schema entry row = none := by
      intro entry
      rw [question?, if_neg hwidth]
    have htracks : checker.tracksAfter schema (before ++ [row]) = checker.tracksAfter schema before := by
      refine List.map_congr_left fun entry _ => ?_
      rw [trackAfter, trackAfter, questions_concat, hnone, Option.toList_none, List.append_nil]
    rw [htracks]
    simp only [checkRow, judgeRow, ne_eq, hwidth, not_false_eq_true, if_true, if_false]

-- A run makes the reports that the answers of the rules demand, and remembers
-- what they were asked.
theorem sweep_eq_judge (before : List Csv.Row) (line : Nat) (rows : List Csv.Row) :
    checker.sweep schema line (checker.tracksAfter schema before) rows =
      checker.judge schema before line rows >>= fun _ =>
        pure (checker.tracksAfter schema (before ++ rows)) := by
  induction rows generalizing before line with
  | nil => rw [List.append_nil]; rfl
  | cons row rows ih =>
      simp only [sweep, judge, checkRow_eq_judgeRow, Check.bind_assoc, Check.bind_pure_left, ih,
        List.append_assoc, List.singleton_append]

-- The check of a feed, by the answers of the rules.
theorem checkFeed_eq_judge (schema : Schema) (feed : Feed) :
    checker.checkFeed schema feed =
      checker.judge schema [] schema.firstLine (schema.dataRows feed.rows) >>= fun _ =>
        if feed.fault.isNone && schema.firstLine + (schema.dataRows feed.rows).length ==
            schema.firstLine && !schema.permitEmpty then
          Check.report checker.failFast emptyMessage
        else pure () := by
  rw [checkFeed, remainder, ← tracksAfter_nil checker, sweep_eq_judge, Check.bind_assoc]
  simp only [Check.bind_pure_left]

theorem judge_append (before : List Csv.Row) (line : Nat) (rows others : List Csv.Row) :
    checker.judge schema before line (rows ++ others) =
      checker.judge schema before line rows >>= fun _ =>
        checker.judge schema (before ++ rows) (line + rows.length) others := by
  induction rows generalizing before line with
  | nil => simp [judge]
  | cons row rows ih =>
      have hline : line + 1 + rows.length = line + (rows.length + 1) := by omega
      simp only [List.cons_append, judge, ih, Check.bind_assoc, List.append_assoc, List.nil_append,
        List.length_cons, hline]

/-! Runs that go on behind errors -/

-- A rule of a column is asked about its cell of a row, behind the questions
-- about the rows before it.
inductive Asks (checker : Checker) (schema : Schema) (rows : List Csv.Row) :
    List Rule.Question → Rule.Question → Rule → Prop
  | intro {before after : List Csv.Row} {row : Csv.Row} {entry : Column × Nat}
      {question : Rule.Question} {rule : Rule} (hrows : rows = before ++ row :: after)
      (hentry : entry ∈ schema.columns.zipIdx)
      (hquestion : checker.question? schema entry row = some question)
      (hrule : rule ∈ entry.1.rules) :
      Asks checker schema rows (checker.questions schema entry before) question rule

section All

variable (hall : checker.failFast = false)

include hall

theorem judgeRule_eq_ok_iff {asked : List Rule.Question} {question : Rule.Question} {cell : Cell}
    {rule : Rule} :
    (checker.judgeRule asked question cell rule).result = .ok () ↔
      ∀ fault, rule.answer asked question ≠ .error fault := by
  simp only [judgeRule, hall]
  split
  · rename_i fault he
    exact iff_of_false nofun fun h => h fault he
  · rename_i holds he
    refine iff_of_true ?_ fun fault hf => ?_
    · split
      · rfl
      · rfl
    · rw [he] at hf
      cases hf

theorem judgeRow_eq_ok_iff {before : List Csv.Row} {line : Nat} {row : Csv.Row} :
    (checker.judgeRow schema before line row).result = .ok () ↔
      ∀ entry ∈ schema.columns.zipIdx, ∀ question, checker.question? schema entry row = some question →
        ∀ rule ∈ entry.1.rules, ∀ fault,
          rule.answer (checker.questions schema entry before) question ≠ .error fault := by
  by_cases hwidth : row.length = schema.total
  · rw [judgeRow, if_pos hwidth, Check.result_each_eq_ok_iff]
    refine forall₂_congr fun entry _ => ?_
    simp only [judgeCell]
    cases hq : checker.question? schema entry row with
    | none => exact iff_of_true rfl nofun
    | some question =>
        simp only [Check.result_each_eq_ok_iff, judgeRule_eq_ok_iff hall, Option.some.injEq,
          forall_eq']
  · rw [judgeRow, if_neg hwidth, hall]
    refine iff_of_true rfl fun entry _ question hq => ?_
    rw [question?, if_neg hwidth] at hq
    cases hq

theorem judge_eq_ok_iff {before : List Csv.Row} {line : Nat} {rows : List Csv.Row} :
    (checker.judge schema before line rows).result = .ok () ↔
      ∀ front row after, rows = front ++ row :: after →
        ∀ line, (checker.judgeRow schema (before ++ front) line row).result = .ok () := by
  induction rows generalizing before line with
  | nil => exact iff_of_true rfl fun front _ _ h => by simp at h
  | cons first rows ih =>
      rw [judge, Check.result_bind_eq_ok_iff]
      constructor
      · rintro ⟨_, hfirst, hrows⟩ front row after h
        cases front with
        | nil =>
            obtain ⟨rfl, rfl⟩ := List.cons.inj h
            rw [List.append_nil]
            exact fun _ => (judgeRow_eq_ok_iff hall).mpr ((judgeRow_eq_ok_iff hall).mp hfirst)
        | cons other front =>
            obtain ⟨rfl, rfl⟩ := List.cons.inj h
            simpa using ih.mp hrows front row after rfl
      · intro h
        refine ⟨(), by simpa using h [] first rows rfl line, ih.mpr fun front row after hrows => ?_⟩
        simpa using h (first :: front) row after (by rw [hrows, List.cons_append])

-- Rows are checked to their end if every rule has an answer to what it is asked.
theorem judge_eq_ok_iff_answers (line : Nat) (rows : List Csv.Row) :
    (checker.judge schema [] line rows).result = .ok () ↔
      ∀ asked question rule, checker.Asks schema rows asked question rule →
        ∀ fault, rule.answer asked question ≠ .error fault := by
  simp only [judge_eq_ok_iff hall, judgeRow_eq_ok_iff hall, List.nil_append]
  constructor
  · rintro h _ _ _ ⟨hrows, hentry, hquestion, hrule⟩
    exact h _ _ _ hrows line _ hentry _ hquestion _ hrule
  · intro h front row after hrows _ entry hentry question hquestion rule hrule
    exact h _ _ _ (.intro hrows hentry hquestion hrule)

theorem checkFeed_eq_ok_iff_judge (schema : Schema) (feed : Feed) :
    (checker.checkFeed schema feed).result = .ok () ↔
      (checker.judge schema [] schema.firstLine (schema.dataRows feed.rows)).result = .ok () := by
  rw [checkFeed_eq_judge, Check.result_bind_eq_ok_iff]
  constructor
  · rintro ⟨_, hjudge, -⟩
    exact hjudge
  · intro hjudge
    refine ⟨(), hjudge, ?_⟩
    split
    · rw [hall]
      rfl
    · rfl

end All

end Checker

-- A run that goes on behind errors ends in no fault if every rule has an answer
-- to what it is asked.
theorem Engine.validate_fault_eq_none_iff_judge (engine : Engine) (files : FileTree) (schema : Schema)
    (rows : List Csv.Row) (size total : Option Int) (display : Option Display)
    (hall : engine.failFast = false) :
    (engine.validate files schema { rows, size } display total).1.fault = none ↔
      ((engine.checker files).judge schema [] schema.firstLine (schema.dataRows rows)).result =
        .ok () := by
  let check := (engine.checker files).checkFeed schema { rows, size }
  have hrun : (engine.validate files schema { rows, size } display total).1.fault =
      Job.faultOf none check.result := (Job.run_eq_checkFeed _ { rows, size }).2
  rw [hrun, ← Checker.checkFeed_eq_ok_iff_judge hall schema { rows, size }]
  constructor
  · intro h
    match hr : check.result with
    | .ok () => rfl
    | .error .firstError => exact absurd hr (Checker.checkFeed_ne_firstError hall schema _)
    | .error (.fault fault) =>
        rw [hr] at h
        cases h
  · intro h
    rw [show check.result = .ok () from h]
    rfl

end TableSchema
