import TableSchema.Engine
import TableSchema.Proofs.Table.Sequence

namespace TableSchema

namespace Schema

-- The line of the first row that is no header.
def firstLine (schema : Schema) : Nat :=
  if schema.hasHeader then 2 else 1

def dataRows (schema : Schema) (rows : List Csv.Row) : List Csv.Row :=
  if schema.hasHeader then rows.drop 1 else rows

end Schema

namespace Checker

-- What is left to check from a line on: the rows, and then whether there was any.
-- A table whose rows end in a fault is not said to be empty.
def remainder (checker : Checker) (schema : Schema) (fault : Option Csv.ReadFault) (line : Nat)
    (tracks : List Track) (rows : List Csv.Row) : Check Unit := do
  let _ ← checker.sweep schema line tracks rows
  if fault.isNone && line + rows.length == schema.firstLine && !schema.permitEmpty then
    Check.report checker.failFast emptyMessage

-- The check of a whole feed.
def checkFeed (checker : Checker) (schema : Schema) (feed : Feed) : Check Unit :=
  checker.remainder schema feed.fault schema.firstLine (schema.columns.map Track.ofColumn)
    (schema.dataRows feed.rows)

theorem remainder_nil (checker : Checker) (schema : Schema) (fault : Option Csv.ReadFault)
    (line : Nat) (tracks : List Track) :
    checker.remainder schema fault line tracks [] =
      if fault.isNone && line == schema.firstLine && !schema.permitEmpty then
        Check.report checker.failFast emptyMessage
      else pure () := by
  simp only [remainder, sweep, Check.bind_pure_left, List.length_nil, Nat.add_zero]

-- One row is checked, and then what is left behind it.
theorem remainder_cons (checker : Checker) (schema : Schema) (fault : Option Csv.ReadFault)
    (line : Nat) (tracks : List Track) (row : Csv.Row) (rows : List Csv.Row) :
    checker.remainder schema fault line tracks (row :: rows) =
      checker.checkRow schema line tracks row >>= fun after =>
        checker.remainder schema fault (line + 1) after rows := by
  simp only [remainder, sweep, Check.bind_assoc, List.length_cons, Nat.add_assoc, Nat.add_comm 1]

theorem checkFeed_related {R : ∀ {α : Type}, Check α → Check α → Prop} {checker : Checker}
    {failFast : Bool} (hR : Check.Congruence R checker.failFast failFast) (schema : Schema)
    (feed : Feed) :
    R (checker.checkFeed schema feed) ({ checker with failFast }.checkFeed schema feed) := by
  refine hR.bind (sweep_related hR schema _ _ _) fun _ => ?_
  dsimp only
  split
  · exact hR.report _
  · exact hR.pure _

end Checker

theorem Run.outcome_of_fault_eq_none {run : Run} (h : run.fault = none) :
    run.outcome = .ok run.messages := by
  simp only [outcome, h]

namespace Job

-- The fault with which a run ends that comes to a result before its rows do.
def faultOf (fault : Option Csv.ReadFault) : Except Halt Unit → Option RunFault
  | .error (.fault fault) => some (.undecided fault)
  | .error .firstError => none
  | .ok _ => fault.map .unread

theorem messages_progress (job : Job) (line : Nat) :
    (job.progress line).filterMap Event.message? = [] := by
  simp only [progress]
  split
  · split
    · rfl
    · simp only [told]
      split
      · rfl
      · split <;> rfl
  · rfl

theorem messages_reported (messages : List Message) :
    (messages.map Event.reported).filterMap Event.message? = messages := by
  rw [List.filterMap_map]
  exact List.filterMap_some

theorem finish_messages (job : Job) (lines : Nat) (past : List Event) :
    (job.finish lines past).filterMap Event.message? = (past.filterMap Event.message?).reverse ++
      if job.dataRows lines = 0 && !job.schema.permitEmpty then [emptyMessage] else [] := by
  simp only [finish]
  split <;> simp [Event.message?]

-- The number of data rows is known from the line behind the last row.
theorem dataRows_eq_zero_iff (job : Job) (line : Nat) (h : job.schema.firstLine ≤ line) :
    job.dataRows (line - 1) = 0 ↔ line = job.schema.firstLine := by
  by_cases hh : job.schema.hasHeader = true <;>
    simp only [dataRows, Schema.firstLine, hh, if_true, if_false, Bool.false_eq_true] at * <;> omega

theorem runFrom_nil_eq_remainder (job : Job) (fault : Option Csv.ReadFault) (line : Nat)
    (tracks : List Track) (past : List Event) (hline : job.schema.firstLine ≤ line) :
    (job.runFrom fault line tracks past []).messages =
        (past.filterMap Event.message?).reverse ++
          (job.checker.remainder job.schema fault line tracks []).messages ∧
      (job.runFrom fault line tracks past []).fault =
        faultOf fault (job.checker.remainder job.schema fault line tracks []).result := by
  rw [Checker.remainder_nil]
  cases fault with
  | some fault => simp [runFrom, Run.messages, faultOf]
  | none =>
      have hz : decide (job.dataRows (line - 1) = 0) = (line == job.schema.firstLine) := by
        rw [Bool.eq_iff_iff, decide_eq_true_iff, beq_iff_eq]
        exact job.dataRows_eq_zero_iff line hline
      simp only [runFrom, Run.messages, finish_messages, hz, Option.isNone_none, Bool.true_and]
      split
      · refine ⟨rfl, ?_⟩
        simp only [Check.report]
        split <;> rfl
      · simp [faultOf]

-- The events of a run hold the reports of the events before it and those of the
-- check of what is left, in this order.
theorem runFrom_eq_remainder (job : Job) (fault : Option Csv.ReadFault) (line : Nat)
    (tracks : List Track) (past : List Event) (rows : List Csv.Row)
    (hline : job.schema.firstLine ≤ line) :
    (job.runFrom fault line tracks past rows).messages =
        (past.filterMap Event.message?).reverse ++
          (job.checker.remainder job.schema fault line tracks rows).messages ∧
      (job.runFrom fault line tracks past rows).fault =
        faultOf fault (job.checker.remainder job.schema fault line tracks rows).result := by
  induction rows generalizing line tracks past with
  | nil => exact job.runFrom_nil_eq_remainder fault line tracks past hline
  | cons row rows ih =>
      have hheader : (decide (line = 1) && job.schema.hasHeader) = false := by
        by_cases hh : job.schema.hasHeader = true
        · simp only [Schema.firstLine, hh, if_true] at hline
          simp only [show ¬line = 1 by omega, decide_false, Bool.false_and]
        · simp only [hh, Bool.and_false]
      rw [Checker.remainder_cons]
      simp only [runFrom, hheader, Bool.false_eq_true, if_false]
      cases hr : (job.checker.checkRow job.schema line tracks row).result with
      | error halt =>
          rw [Check.bind_of_error hr]
          cases halt with
          | fault fault => simp [Run.messages, faultOf, messages_reported, -List.filterMap_map]
          | firstError =>
              simp [Run.messages, faultOf, messages_reported, messages_progress, Event.message?,
                -List.filterMap_map]
      | ok after =>
          rw [Check.bind_of_ok hr]
          have hnext := ih (line + 1) after ((job.progress line).reverse ++
            (((job.checker.checkRow job.schema line tracks row).messages.map Event.reported).reverse ++
              past)) (Nat.le_succ_of_le hline)
          refine ⟨hnext.1.trans ?_, hnext.2⟩
          simp [messages_reported, messages_progress, -List.filterMap_map]

-- A header is passed over. It makes no report and is no data row.
theorem runFrom_header (job : Job) (fault : Option Csv.ReadFault) (tracks : List Track)
    (past : List Event) (rows : List Csv.Row) (hheader : job.schema.hasHeader = true) :
    ∃ before, before.filterMap Event.message? = past.filterMap Event.message? ∧
      job.runFrom fault 1 tracks past rows = job.runFrom fault 2 tracks before (rows.drop 1) := by
  cases rows with
  | nil => exact ⟨past, rfl, by cases fault <;> simp [runFrom, finish, dataRows, hheader]⟩
  | cons row rows =>
      refine ⟨(job.progress 1).reverse ++ past, ?_, by simp [runFrom, hheader]⟩
      simp [messages_progress]

-- A run reports what the check of its feed reports, and ends in the fault in
-- which the check or the feed ends.
theorem run_eq_checkFeed (job : Job) (feed : Feed) :
    (job.run feed).messages = (job.checker.checkFeed job.schema feed).messages ∧
      (job.run feed).fault = faultOf feed.fault (job.checker.checkFeed job.schema feed).result := by
  have hbegan : List.filterMap Event.message?
      [Event.began job.schema.total job.checker.failFast] = [] := rfl
  simp only [run, Checker.checkFeed]
  cases hh : job.schema.hasHeader with
  | false =>
      have hfirst : job.schema.firstLine = 1 := by simp [Schema.firstLine, hh]
      have hrows : job.schema.dataRows feed.rows = feed.rows := by simp [Schema.dataRows, hh]
      have h := job.runFrom_eq_remainder feed.fault 1 (job.schema.columns.map Track.ofColumn)
        [.began job.schema.total job.checker.failFast] feed.rows (Nat.le_of_eq hfirst)
      rw [hbegan, List.reverse_nil, List.nil_append] at h
      rwa [hfirst, hrows]
  | true =>
      have hfirst : job.schema.firstLine = 2 := by simp [Schema.firstLine, hh]
      have hrows : job.schema.dataRows feed.rows = feed.rows.drop 1 := by simp [Schema.dataRows, hh]
      obtain ⟨before, hb, hr⟩ := job.runFrom_header feed.fault
        (job.schema.columns.map Track.ofColumn) [.began job.schema.total job.checker.failFast]
        feed.rows hh
      have h := job.runFrom_eq_remainder feed.fault 2 (job.schema.columns.map Track.ofColumn) before
        (feed.rows.drop 1) (Nat.le_of_eq hfirst)
      rw [hb, hbegan, List.reverse_nil, List.nil_append, ← hr] at h
      rwa [hfirst, hrows]

end Job

namespace Engine

theorem messages_rowsRun (engine : Engine) (files : FileTree) (schema : Schema) (feed : Feed)
    (display : Option Display) (total : Option Int) :
    (engine.rowsRun files schema feed display total).messages =
      ((engine.checker files).checkFeed schema feed).messages :=
  (Job.run_eq_checkFeed _ feed).1

theorem fault_rowsRun_eq_faultOf (engine : Engine) (files : FileTree) (schema : Schema)
    (feed : Feed) (display : Option Display) (total : Option Int) :
    (engine.rowsRun files schema feed display total).fault =
      Job.faultOf feed.fault ((engine.checker files).checkFeed schema feed).result :=
  (Job.run_eq_checkFeed _ feed).2

end Engine

end TableSchema
