import TableSchema.Proofs.Table.Answers

namespace TableSchema

-- The schema with another rule in the place of one of a column.
def Schema.withRule (schema : Schema) (index position : Nat) (rule : Rule) : Schema :=
  { schema with
    columns := schema.columns.modify index fun column =>
      { column with rules := column.rules.set position rule } }

-- The answer that a run comes to, behind some data rows, for a rule of a column
-- and another row. There is none if it does not come so far, or is not asked.
def Checker.answer? (checker : Checker) (schema : Schema) (before : List Csv.Row) (row : Csv.Row)
    (index position : Nat) : Option (Except Rule.Fault Bool) := do
  let tracks ←
    (checker.sweep schema schema.firstLine (schema.columns.map Track.ofColumn) before).result.toOption
  let track ← tracks[index]?
  let (rule, memory) ← track.rules[position]?
  let question ← checker.question? schema (track.column, index) row
  return (rule.evaluate question.context question.value memory).1

/-! Rules without uniqueness -/

namespace Rule

theorem evaluate_fst_of_hasUnique {rule : Rule} (h : rule.hasUnique = false) (context : Context)
    (value : String) (memory other : Memory) :
    (rule.evaluate context value memory).1 = (rule.evaluate context value other).1 := by
  induction rule generalizing memory other with
  | unique => simp [hasUnique] at h
  | or left right ihl ihr =>
      simp only [hasUnique, Bool.or_eq_false_iff] at h
      have hleft := ihl h.1 memory.left other.left
      rcases hm : left.evaluate context value memory.left with ⟨found, after⟩
      rcases ho : left.evaluate context value other.left with ⟨found', after'⟩
      rw [hm, ho] at hleft
      obtain rfl : found = found' := hleft
      by_cases hf : found = .ok false
      · subst hf
        rw [evaluate_or_of_rejected hm, evaluate_or_of_rejected ho]
        exact ihr h.2 memory.right other.right
      · rw [evaluate_or_of_ne hm hf, evaluate_or_of_ne ho hf]
  | _ => rfl

-- What such a rule was asked before makes no difference to its answer.
theorem answer_of_hasUnique {rule : Rule} (h : rule.hasUnique = false) (asked other : List Question)
    (question : Question) : rule.answer asked question = rule.answer other question :=
  evaluate_fst_of_hasUnique h question.context question.value _ _

end Rule

namespace Schema

variable {schema : Schema} {index position : Nat} {column : Column} {rule : Rule}

theorem columnNames_withRule (schema : Schema) (index position : Nat) (rule : Rule) :
    (schema.withRule index position rule).columnNames = schema.columnNames := by
  simp only [columnNames, withRule]
  refine List.ext_getElem? fun i => ?_
  simp only [List.getElem?_map, List.getElem?_modify]
  cases schema.columns[i]? with
  | none => rfl
  | some column =>
      simp only [Option.map_some]
      split
      · rfl
      · rfl

theorem columns_withRule (h : schema.columns[index]? = some column) (position : Nat) (rule : Rule) :
    (schema.withRule index position rule).columns[index]? =
      some { column with rules := column.rules.set position rule } := by
  simp [withRule, h]

end Schema

namespace Checker

variable {checker : Checker} {schema : Schema} {index position : Nat} {column : Column} {rule : Rule}
  {before after : List Csv.Row} {row : Csv.Row} {question : Rule.Question}

-- A run without faults comes to an answer wherever a rule is asked.
theorem exists_answer?_of_judge (hall : checker.failFast = false)
    (hjudge : (checker.judge schema [] schema.firstLine (before ++ row :: after)).result = .ok ())
    (hcolumn : schema.columns[index]? = some column) (hrule : column.rules[position]? = some rule)
    (hquestion : checker.question? schema (column, index) row = some question) :
    ∃ holds, checker.answer? schema before row index position = some (.ok holds) ∧
      rule.answer (checker.questions schema (column, index) before) question = .ok holds := by
  have hentry : (column, index) ∈ schema.columns.zipIdx :=
    List.mk_mem_zipIdx_iff_getElem?.mpr hcolumn
  have hasks : checker.Asks schema (before ++ row :: after) _ question rule :=
    .intro rfl hentry hquestion (List.mem_of_getElem? hrule)
  have hanswers := (judge_eq_ok_iff_answers hall _ _).mp hjudge _ _ _ hasks
  obtain ⟨holds, hholds⟩ : ∃ holds,
      rule.answer (checker.questions schema (column, index) before) question = .ok holds := by
    cases ha : rule.answer (checker.questions schema (column, index) before) question with
    | error fault => exact absurd ha (hanswers fault)
    | ok holds => exact ⟨holds, rfl⟩
  refine ⟨holds, ?_, hholds⟩
  rw [judge_append, Check.result_bind_eq_ok_iff] at hjudge
  obtain ⟨_, hbefore, -⟩ := hjudge
  have hsweep : (checker.sweep schema schema.firstLine (schema.columns.map Track.ofColumn)
      before).result = .ok (checker.tracksAfter schema before) := by
    rw [← tracksAfter_nil checker, sweep_eq_judge, Check.bind_of_ok hbefore]
    rfl
  have htrack : (checker.tracksAfter schema before)[index]? =
      some (checker.trackAfter schema before (column, index)) := by
    simp [tracksAfter, hcolumn]
  have hmemory : (checker.trackAfter schema before (column, index)).rules[position]? =
      some (rule, rule.memoryAfter (checker.questions schema (column, index) before)) := by
    simp [trackAfter, hrule]
  rw [Rule.answer] at hholds
  simp [answer?, hsweep, htrack, hmemory, hquestion, hholds, Except.toOption]

-- So does a run over the schema with another rule in its place.
theorem exists_answer?_withRule (hall : checker.failFast = false) {other : Rule}
    (hjudge : (checker.judge (schema.withRule index position other) [] schema.firstLine
      (before ++ row :: after)).result = .ok ())
    (hcolumn : schema.columns[index]? = some column) (hrule : column.rules[position]? = some rule)
    (hquestion : checker.question? schema (column, index) row = some question) :
    ∃ holds, checker.answer? (schema.withRule index position other) before row index position =
        some (.ok holds) ∧
      other.answer (checker.questions schema (column, index) before) question = .ok holds := by
  have hlt : position < column.rules.length := (List.getElem?_eq_some_iff.mp hrule).1
  have hset : (column.rules.set position other)[position]? = some other := by
    simp [hlt]
  have hnames := schema.columnNames_withRule index position other
  have h := exists_answer?_of_judge hall hjudge (Schema.columns_withRule hcolumn position other) hset
    ((question?_of_columnNames hnames (column, index) _ row).trans hquestion)
  rwa [questions_of_columnNames hnames (column, index)] at h

end Checker

namespace Engine

-- An alternative holds where one of its sides does in a run with that side alone,
-- exactly if the left side holds there, or the right side answers the same behind
-- what the left side rejected as behind all that was asked. A right side that is
-- not about uniqueness always does.
theorem or_answer_eq_either_iff (engine : Engine) (files : FileTree) (schema : Schema)
    (rows : List Csv.Row) (size total : Option Int) (display : Option Display)
    {index position : Nat} {column : Column} {left right : Rule} (hall : engine.failFast = false)
    (hcolumn : schema.columns[index]? = some column)
    (hrule : column.rules[position]? = some (.or left right))
    (heither : (engine.validate files schema { rows, size } display total).1.fault = none)
    (hleft : (engine.validate files (schema.withRule index position left) { rows, size } display
      total).1.fault = none)
    (hright : (engine.validate files (schema.withRule index position right) { rows, size } display
      total).1.fault = none)
    {before after : List Csv.Row} {row : Csv.Row} {question : Rule.Question}
    (hrows : schema.dataRows rows = before ++ row :: after)
    (hquestion : (engine.checker files).question? schema (column, index) row = some question) :
    let checker := engine.checker files
    let asked := checker.questions schema (column, index) before
    ∃ either first second,
      checker.answer? schema before row index position = some (.ok either) ∧
      checker.answer? (schema.withRule index position left) before row index position =
        some (.ok first) ∧
      checker.answer? (schema.withRule index position right) before row index position =
        some (.ok second) ∧
      (either = (first || second) ↔
        first = true ∨ right.answer (left.rejected asked) question = .ok second) ∧
      (right.hasUnique = false → either = (first || second)) := by
  intro checker asked
  rw [validate_fault_eq_none_iff_judge _ _ _ _ _ _ _ hall] at heither hleft hright
  have hdata : ∀ rule, (schema.withRule index position rule).dataRows rows = before ++ row :: after :=
    fun _ => hrows
  rw [hrows] at heither
  rw [hdata] at hleft hright
  obtain ⟨either, hanswer, he⟩ :=
    Checker.exists_answer?_of_judge hall heither hcolumn hrule hquestion
  obtain ⟨first, hfirst, hf⟩ := Checker.exists_answer?_withRule hall hleft hcolumn hrule hquestion
  obtain ⟨second, hsecond, hs⟩ := Checker.exists_answer?_withRule hall hright hcolumn hrule hquestion
  refine ⟨either, first, second, hanswer, hfirst, hsecond, ?_⟩
  cases first with
  | true =>
      rw [Rule.answer_or_of_ne (by rw [hf]; nofun), hf] at he
      obtain rfl := Except.ok.inj he
      simp
  | false =>
      rw [Rule.answer_or_of_rejected hf] at he
      have hleft : right.answer (left.rejected asked) question = .ok either := he
      refine ⟨by simp [hleft], fun hunique => ?_⟩
      rw [Rule.answer_of_hasUnique hunique _ asked, hs] at he
      simpa using (Except.ok.inj he).symm

-- The first cell of a row is the second one.
def echoes : Rule :=
  .compare .equal (.column "B")

def ruledColumn (rule : Rule) : Column where
  name := "A"
  rules := [rule]
  directives := []

def pairs (rule : Rule) : Schema where
  hasHeader := false
  permitEmpty := false
  columns := [ruledColumn rule, { name := "B", rules := [], directives := [] }]

-- Pairs that begin with the same cell, and only the first one ends with it.
def repeatedPairs : List Csv.Row :=
  [["x", "x"], ["x", "y"]]

def pairsRun (rule : Rule) : Run :=
  (validate {} .bare (pairs rule) { rows := repeatedPairs } none none).1

-- Neither side alone holds in the second row, but behind the left side the right
-- side has not seen the first row. The other way round it has.
theorem or_reports_no_line_of_either :
    let lines (rule : Rule) := (pairsRun rule).outcome.map (List.map Message.line)
    lines echoes = .ok [some 2] ∧ lines .unique = .ok [some 2] ∧
      lines (.or echoes .unique) = .ok [] ∧ lines (.or .unique echoes) = .ok [some 2] := by
  intro lines
  dsimp only [lines]
  exact ⟨by cbv, by cbv, by cbv, by cbv⟩

theorem or_answer_eq_either_iff_of_repeatedPairs :
    let rule := Rule.or echoes .unique
    let checker := Engine.checker {} .bare
    let asked := checker.questions (pairs rule) (ruledColumn rule, 0) [["x", "x"]]
    ∃ question, checker.question? (pairs rule) (ruledColumn rule, 0) ["x", "y"] = some question ∧
      (pairsRun rule).fault = none ∧ (pairsRun echoes).fault = none ∧
      (pairsRun .unique).fault = none ∧
      ∃ either first second,
        checker.answer? (pairs rule) [["x", "x"]] ["x", "y"] 0 0 = some (.ok either) ∧
        checker.answer? (pairs echoes) [["x", "x"]] ["x", "y"] 0 0 = some (.ok first) ∧
        checker.answer? (pairs .unique) [["x", "x"]] ["x", "y"] 0 0 = some (.ok second) ∧
        (either = (first || second) ↔
          first = true ∨ Rule.unique.answer (echoes.rejected asked) question = .ok second) := by
  intro rule checker asked
  have hcolumn : (pairs rule).columns[0]? = some (ruledColumn rule) := rfl
  have hrule : (ruledColumn rule).rules[0]? = some (.or echoes .unique) := rfl
  have hrows : (pairs rule).dataRows repeatedPairs = [["x", "x"]] ++ ["x", "y"] :: [] := rfl
  have heither : (pairsRun rule).fault = none := by cbv
  have hleft : (pairsRun echoes).fault = none := by cbv
  have hright : (pairsRun .unique).fault = none := by cbv
  obtain ⟨question, hquestion⟩ :
      ∃ question, checker.question? (pairs rule) (ruledColumn rule, 0) ["x", "y"] = some question :=
    ⟨_, rfl⟩
  obtain ⟨either, first, second, hanswer, hfirst, hsecond, hiff, -⟩ :=
    or_answer_eq_either_iff {} .bare (pairs rule) repeatedPairs none none none rfl hcolumn hrule
      heither hleft hright hrows hquestion
  exact ⟨_, hquestion, heither, hleft, hright, either, first, second, hanswer, hfirst, hsecond, hiff⟩

end Engine

end TableSchema
