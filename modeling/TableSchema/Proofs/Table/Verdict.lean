import TableSchema.Proofs.Table.Findings
import TableSchema.Proofs.Table.FirstError
import TableSchema.Proofs.Table.Reading

namespace TableSchema

namespace Run

-- A run fails a table in which it has found an error or which it could not read.
def passes (run : Run) : Bool :=
  run.fault.isNone && !Message.containsError run.messages

-- No rule was left without an answer.
def IsDecided (run : Run) : Prop :=
  ∀ reason, run.fault ≠ some (.undecided reason)

theorem passes_eq_true_iff {run : Run} :
    run.passes = true ↔ run.fault = none ∧ run.messages.any Message.isError = false := by
  simp only [passes, Message.containsError, Bool.and_eq_true, Option.isNone_iff_eq_none,
    Bool.not_eq_true']

end Run

namespace Engine

-- Whether the rows of a feed can be read to their end and have no error. This is settled by the
-- check of all of them.
def Clears (engine : Engine) (files : FileTree) (schema : Schema) (feed : Feed) : Prop :=
  let check := ({ engine with failFast := false }.checker files).checkFeed schema feed
  feed.fault = none ∧ check.messages.any Message.isError = false

section Runs

variable {engine : Engine} {files : FileTree} {schema : Schema}

-- A run that stops at the first error has not come to the end of the rows, but then it has an
-- error to fail the table for.
theorem passes_rowsRun_iff {feed : Feed} {display : Option Display} {total : Option Int}
    (hdecided : (engine.rowsRun files schema feed display total).IsDecided) :
    (engine.rowsRun files schema feed display total).passes = true ↔
      engine.Clears files schema feed := by
  let all := ({ engine with failFast := false }.checker files).checkFeed schema feed
  let check := (engine.checker files).checkFeed schema feed
  have hmessages : (engine.rowsRun files schema feed display total).messages = check.messages :=
    engine.messages_rowsRun files schema feed display total
  have hfault : (engine.rowsRun files schema feed display total).fault =
      Job.faultOf feed.fault check.result :=
    engine.fault_rowsRun_eq_faultOf files schema feed display total
  have hcheck : check = if engine.failFast then all.stoppedAtError else all :=
    engine.checkFeed_eq_stoppedAtError files schema feed
  have herror : check.messages.any Message.isError = all.messages.any Message.isError := by
    rw [hcheck]
    split
    · rw [Check.messages_stoppedAtError, Message.any_isError_throughFirstError]
    · rfl
  rw [Run.passes_eq_true_iff, hmessages, hfault, herror, Clears]
  refine and_congr_left fun hno => ?_
  have hsame : check = all := by
    rw [hcheck, Check.stoppedAtError_of_no_error hno, ite_self]
  -- Without an error both checks are one, which goes to the end or leaves a rule unanswered.
  rw [hsame]
  rcases hresult : all.result with (_ | reason) | ⟨⟩
  · exact absurd hresult (Checker.checkFeed_ne_firstError rfl schema feed)
  · refine absurd ?_ (hdecided reason)
    rw [hfault, hsame, hresult]
    rfl
  · exact Option.map_eq_none_iff

section Files

variable {path encoding : String} {checksUtf8 : Bool} {display : Option Display}

-- A file whose rows are not checked fails, since it cannot be read or has ill-formed lines.
theorem passes_fileRun_of_rowSource?_eq_none
    (h : rowSource? files path encoding checksUtf8 = none) :
    (engine.fileRun files schema path encoding checksUtf8 display).passes = false := by
  rcases fileRun_cases_of_rowSource?_eq_none h with
    ⟨fault, hrun⟩ | ⟨source, message, messages, hreports, hrun⟩
  · rw [hrun]
    rfl
  · have herror := isError_of_lineReports hreports message List.mem_cons_self
    simp [hrun, Run.passes, Run.reporting, Run.messages, Event.message?, Message.containsError,
      herror]

-- A file passes if its rows are checked and cleared. A display makes no difference, since rows
-- that cannot be counted cannot be read to their end either.
theorem passes_fileRun_iff
    (hdecided : (engine.fileRun files schema path encoding checksUtf8 display).IsDecided) :
    (engine.fileRun files schema path encoding checksUtf8 display).passes = true ↔
      ∃ source ∈ rowSource? files path encoding checksUtf8,
        engine.Clears files schema (.ofFile source.rows) := by
  cases hsource : rowSource? files path encoding checksUtf8 with
  | none => simp [passes_fileRun_of_rowSource?_eq_none hsource]
  | some source =>
      simp only [Option.mem_def, Option.some.injEq, exists_eq_left']
      rcases fileRun_cases hsource display with ⟨total, hrun⟩ | ⟨reading, hreading, hrun⟩
      · rw [hrun] at hdecided ⊢
        exact passes_rowsRun_iff hdecided
      · rw [hrun]
        refine iff_of_false Bool.false_ne_true fun hclears => ?_
        have hnone : source.rows.fault = none := hclears.1
        rw [hreading] at hnone
        cases hnone

end Files

end Runs

-- Whether a file passes does not depend on who watches the run, nor on where it stops.
theorem passes_fileRun_eq {engine engine' : Engine} (hresolver : engine.resolver = engine'.resolver)
    {files : FileTree} {schema : Schema} {path encoding : String} {checksUtf8 : Bool}
    {display display' : Option Display}
    (hdecided : (engine.fileRun files schema path encoding checksUtf8 display).IsDecided)
    (hdecided' : (engine'.fileRun files schema path encoding checksUtf8 display').IsDecided) :
    (engine.fileRun files schema path encoding checksUtf8 display).passes =
      (engine'.fileRun files schema path encoding checksUtf8 display').passes := by
  have hclears : engine.Clears files schema = engine'.Clears files schema := by
    simp only [funext_iff, Clears, checker, hresolver, implies_true]
  rw [Bool.eq_iff_iff, passes_fileRun_iff hdecided, passes_fileRun_iff hdecided', hclears]

end Engine

end TableSchema
