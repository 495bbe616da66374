import TableSchema.Proofs.Number.Binary64
import TableSchema.Proofs.Table.LineNumbers

namespace TableSchema

open TableSchema.Number

/-! Rows that a display is told about -/

def Notice.isCount : Notice → Bool
  | .count .. => true
  | .percent _ => false

-- A display is told how many rows are done and, unless it complains, which share that is.
def Display.answers (display : Display) (total : Int) (share : Nat → Binary64) (line : Nat) :
    List (Notice × Option String) :=
  let count := Notice.count total line
  let percent := Notice.percent (share line)
  (count, display line count) ::
    if (display line count).isSome then [] else [(percent, display line percent)]

-- The line of the first error.
def Message.errorLine? (messages : List Message) : Option Int :=
  (messages.find? Message.isError).bind Message.line

namespace Run

-- What a display was told about rows that are done.
def counts (run : Run) : List Notice :=
  (run.notices.map Prod.fst).filter Notice.isCount

-- The line of the error that a run stopped at.
def errorLine? (run : Run) (failFast : Bool) : Option Int :=
  if failFast then Message.errorLine? run.messages else none

-- What a run over so many rows tells a display, with a total that need not be their number. It
-- comes to the same as the run without a display, and counts each row that it reads, up to the
-- last one or the error that it stops at. Shares are missing if the total is too large for them.
structure Tells (run quiet : Run) (failFast : Bool) (rows : Nat) (display : Display) (total : Int)
    (lines : Nat) : Prop where
  outcome_eq : run.outcome = quiet.outcome
  lines_eq : (lines : Int) = (run.errorLine? failFast).getD rows
  counts_eq : run.counts = (List.range' 1 lines).map fun line => .count total line
  notices_iff :
    (∃ share, run.notices = (List.range' 1 lines).flatMap (display.answers total share)) ↔
      total < Binary64.overflowBound ∨
        ∀ line ∈ List.range' 1 lines, (display line (.count total line)).isSome

end Run

/-! What is told about one row -/

theorem share?_eq_none_iff (total : Int) (done : Nat) :
    share? total done = none ↔ Binary64.overflowBound ≤ total.natAbs := by
  rw [← Binary64.ofInt_eq_infinite_iff, share?]
  split
  · exact iff_of_true rfl ⟨_, ‹_›⟩
  · rename_i hfinite
    exact iff_of_false nofun fun ⟨negative, hinfinite⟩ => hfinite negative hinfinite

namespace Job

variable {display : Display} {total : Int} {line : Nat}

-- The notices among the events of a row.
def toldNotices (display : Display) (total : Int) (line : Nat) : List (Notice × Option String) :=
  (told display total line).filterMap Event.notice?

theorem toldNotices_of_share {share : Nat → Binary64} (h : share? total line = some (share line)) :
    toldNotices display total line = display.answers total share line := by
  simp only [toldNotices, told, h, Display.answers]
  cases display line (.count total line) with
  | none => rfl
  | some complaint => rfl

theorem toldNotices_of_complaint (share : Nat → Binary64)
    (h : (display line (.count total line)).isSome = true) :
    toldNotices display total line = display.answers total share line := by
  obtain ⟨complaint, hcomplaint⟩ := Option.isSome_iff_exists.mp h
  simp only [toldNotices, told, hcomplaint, Display.answers]
  rfl

theorem toldNotices_of_no_share (h : share? total line = none) :
    toldNotices display total line = [(.count total line, display line (.count total line))] := by
  simp only [toldNotices, told, h]
  cases display line (.count total line) with
  | none => rfl
  | some complaint => rfl

theorem counts_toldNotices :
    ((toldNotices display total line).map Prod.fst).filter Notice.isCount = [.count total line] := by
  cases hshare : share? total line with
  | none =>
      rw [toldNotices_of_no_share hshare]
      rfl
  | some share =>
      have hanswers : toldNotices display total line = display.answers total (fun _ => share) line :=
        toldNotices_of_share hshare
      rw [hanswers, Display.answers]
      cases display line (.count total line) with
      | none => rfl
      | some complaint => rfl

-- Each share is told unless there is none to tell.
theorem exists_share_iff (hnonneg : 0 ≤ total) (lines : List Nat) :
    (∃ share, lines.flatMap (toldNotices display total) =
        lines.flatMap (display.answers total share)) ↔
      total < Binary64.overflowBound ∨
        ∀ line ∈ lines, (display line (.count total line)).isSome = true := by
  constructor
  · rintro ⟨share, htold⟩
    by_contra hnone
    obtain ⟨hlarge, line, hline, hsilent⟩ : Binary64.overflowBound ≤ total.natAbs ∧
        ∃ line ∈ lines, display line (.count total line) = none := by
      simp only [not_or, not_forall, Bool.not_eq_true, Option.isSome_eq_false_iff,
        Option.isNone_iff_eq_none, exists_prop] at hnone
      exact ⟨by omega, hnone.2⟩
    have hpercent : (.percent (share line), display line (.percent (share line))) ∈
        lines.flatMap (toldNotices display total) := by
      rw [htold]
      refine List.mem_flatMap_of_mem hline ?_
      simp [Display.answers, hsilent]
    obtain ⟨other, -, hother⟩ := List.mem_flatMap.mp hpercent
    rw [toldNotices_of_no_share ((share?_eq_none_iff total other).mpr hlarge)] at hother
    simp at hother
  · rintro (hsmall | hcomplaints)
    · have hshare : ∀ line, ∃ share, share? total line = some share := by
        intro line
        refine Option.ne_none_iff_exists'.mp fun hnone => ?_
        have hlarge := (share?_eq_none_iff total line).mp hnone
        omega
      choose share hshare using hshare
      exact ⟨share, congrArg lines.flatMap (funext fun line => toldNotices_of_share (hshare line))⟩
    · exact ⟨fun _ => .infinite false, List.flatMap_congr fun line hline =>
        toldNotices_of_complaint _ (hcomplaints line hline)⟩

end Job

/-! What is told about all rows -/

namespace Message

theorem errorLine?_append {messages : List Message} (h : messages.any isError = false)
    (others : List Message) : errorLine? (messages ++ others) = errorLine? others := by
  have hnone : messages.find? isError = none := by
    rw [List.find?_eq_none]
    intro message hmessage
    simpa using List.any_eq_false.mp h message hmessage
  rw [errorLine?, List.find?_append, hnone, Option.none_or]
  rfl

theorem errorLine?_of_lines {messages : List Message} {line : Nat}
    (h : messages.any isError = true)
    (hlines : ∀ message ∈ messages, message.line = some (line : Int)) :
    errorLine? messages = some (line : Int) := by
  obtain ⟨message, hmessage⟩ :=
    Option.isSome_iff_exists.mp (List.find?_isSome.mpr (List.any_eq_true.mp h))
  rw [errorLine?, hmessage]
  exact hlines message (List.mem_of_find?_eq_some hmessage)

end Message

-- A check stops at the first error if it is told to, and else at none.
theorem Check.congruence_firstError (failFast : Bool) :
    Check.Congruence
      (fun check _ => (failFast && check.messages.any Message.isError) = true ↔
        check.result = .error .firstError) failFast failFast where
  pure _ := by simp
  report message := by
    simp only [Check.report, List.any_cons, List.any_nil, Bool.or_false]
    split
    · simp [*]
    · simp [*]
  fault _ := by simp [Check.halt]
  bind {α β first _ next _} hfirst hnext := by
    cases hresult : first.result with
    | error halt =>
        rw [Check.bind_of_error hresult, hfirst, hresult]
        simp
    | ok value =>
        have hnone : (failFast && first.messages.any Message.isError) = false := by
          rw [Bool.eq_false_iff, ne_eq, hfirst, hresult]
          nofun
        rw [Check.bind_of_ok hresult, List.any_append, Bool.and_or_distrib_left, hnone,
          Bool.false_or]
        exact hnext value

namespace Checker

variable {checker : Checker} {schema : Schema} {before : List Csv.Row} {line : Nat} {row : Csv.Row}
  {tracks : List Track}

theorem line_of_checkRow {message : Message}
    (h : message ∈ (checker.checkRow schema line (checker.tracksAfter schema before) row).messages) :
    message.line = some (line : Int) := by
  rw [checkRow_eq_judgeRow] at h
  rcases Check.mem_messages_bind h with hjudge | ⟨_, hnone⟩
  · exact (reports_of_judgeRow hjudge).line_eq
  · cases hnone

theorem tracks_of_checkRow
    (h : (checker.checkRow schema line (checker.tracksAfter schema before) row).result = .ok tracks) :
    tracks = checker.tracksAfter schema (before ++ [row]) := by
  rw [checkRow_eq_judgeRow, Check.result_bind_eq_ok_iff] at h
  obtain ⟨_, -, htracks⟩ := h
  exact (Except.ok.inj htracks).symm

theorem checkRow_stops_iff (checker : Checker) (schema : Schema) (line : Nat) (tracks : List Track)
    (row : Csv.Row) :
    (checker.failFast && (checker.checkRow schema line tracks row).messages.any Message.isError) =
        true ↔ (checker.checkRow schema line tracks row).result = .error .firstError :=
  checkRow_related (Check.congruence_firstError checker.failFast) schema line tracks row

theorem any_isError_of_checkRow {after : List Track} (hfast : checker.failFast = true)
    (h : (checker.checkRow schema line tracks row).result = .ok after) :
    (checker.checkRow schema line tracks row).messages.any Message.isError = false := by
  rw [Bool.eq_false_iff, ne_eq]
  intro herror
  have hstop := (checkRow_stops_iff checker schema line tracks row).mp
    (Bool.and_eq_true_iff.mpr ⟨hfast, herror⟩)
  rw [h] at hstop
  cases hstop

end Checker

namespace Job

variable {job : Job}

-- The notices of a row, if there is a display that wants them.
def notices (job : Job) (line : Nat) : List (Notice × Option String) :=
  (job.progress line).filterMap Event.notice?

-- The events behind a row: its reports, and what is told about it.
def behind (job : Job) (line : Nat) (messages : List Message) (past : List Event) : List Event :=
  (job.progress line).reverse ++ ((messages.map Event.reported).reverse ++ past)

theorem notices_behind (line : Nat) (messages : List Message) (past : List Event) :
    ((job.behind line messages past).reverse).filterMap Event.notice? =
      past.reverse.filterMap Event.notice? ++ job.notices line := by
  have hreported : (messages.map Event.reported).filterMap Event.notice? = [] := by
    rw [List.filterMap_map]
    exact List.filterMap_eq_nil_iff.mpr fun _ _ => rfl
  simp only [behind, List.reverse_append, List.reverse_reverse, List.filterMap_append, hreported,
    List.append_nil, notices]

theorem messages_behind (line : Nat) (messages : List Message) (past : List Event) :
    (job.behind line messages past).filterMap Event.message? =
      messages.reverse ++ past.filterMap Event.message? := by
  simp only [behind, List.filterMap_append, List.filterMap_reverse, messages_progress,
    messages_reported, List.reverse_nil, List.nil_append]

theorem any_isError_behind (line : Nat) {messages : List Message} {past : List Event}
    (hmessages : messages.any Message.isError = false)
    (hpast : (past.filterMap Event.message?).any Message.isError = false) :
    ((job.behind line messages past).filterMap Event.message?).any Message.isError = false := by
  rw [messages_behind, List.any_append, List.any_reverse, hmessages, hpast]
  rfl

theorem finish_notices (lines : Nat) (past : List Event) :
    (job.finish lines past).filterMap Event.notice? = past.reverse.filterMap Event.notice? := by
  simp only [finish]
  split <;> simp [Event.notice?]

theorem errorLine?_finish {lines : Nat} {past : List Event}
    (h : (past.filterMap Event.message?).any Message.isError = false) :
    Message.errorLine? ((job.finish lines past).filterMap Event.message?) = none := by
  rw [finish_messages, Message.errorLine?_append (by simpa using h)]
  split
  · rfl
  · rfl

-- Behind `done` lines a run reads rows up to an error that it stops at, or to the last one. It
-- tells about each of them, and about nothing else.
def Reads (job : Job) (run : Run) (done rows : Nat) (told : List (Notice × Option String)) : Prop :=
  ∃ lines ≤ rows,
    ((done + lines : Nat) : Int) =
        (run.errorLine? job.checker.failFast).getD ((done + rows : Nat) : Int) ∧
      run.notices = told ++ (List.range' (done + 1) lines).flatMap job.notices

theorem Reads.cons {run : Run} {done rows : Nat} {told : List (Notice × Option String)}
    (h : job.Reads run (done + 1) rows (told ++ job.notices (done + 1))) :
    job.Reads run done (rows + 1) told := by
  obtain ⟨lines, hlines, hline, hnotices⟩ := h
  refine ⟨lines + 1, Nat.succ_le_succ hlines, ?_, ?_⟩
  · rwa [Nat.add_right_comm done 1 lines, Nat.add_right_comm done 1 rows] at hline
  · rw [hnotices, List.range'_succ, List.flatMap_cons, List.append_assoc]

-- One row more is read, and the run stops at it.
theorem reads_of_stop {run : Run} {done rows : Nat} {told : List (Notice × Option String)}
    (hline : run.errorLine? job.checker.failFast = some ((done + 1 : Nat) : Int))
    (hnotices : run.notices = told ++ job.notices (done + 1)) :
    job.Reads run done (rows + 1) told := by
  refine ⟨1, Nat.le_add_left 1 rows, ?_, ?_⟩
  · rw [hline]
    rfl
  · rw [hnotices, List.range'_one, List.flatMap_singleton]

theorem reads_of_end {run : Run} {done : Nat} {told : List (Notice × Option String)}
    (hline : run.errorLine? job.checker.failFast = none) (hnotices : run.notices = told) :
    job.Reads run done 0 told := by
  refine ⟨0, le_rfl, ?_, ?_⟩
  · rw [hline]
    rfl
  · rw [hnotices, List.range'_zero, List.flatMap_nil, List.append_nil]

-- The line of the first error is the row's, since no row before it has one.
theorem reads_of_firstError {done : Nat} {before : List Csv.Row} {past : List Event}
    {row : Csv.Row} (rows : Nat)
    (hpast : job.checker.failFast = true →
      (past.filterMap Event.message?).any Message.isError = false)
    (hresult : (job.checker.checkRow job.schema (done + 1)
      (job.checker.tracksAfter job.schema before) row).result = .error .firstError) :
    job.Reads ⟨(.stopped (done + 1) :: job.behind (done + 1) (job.checker.checkRow job.schema
      (done + 1) (job.checker.tracksAfter job.schema before) row).messages past).reverse, none⟩
      done (rows + 1) (past.reverse.filterMap Event.notice?) := by
  obtain ⟨hfast, herror⟩ :=
    Bool.and_eq_true_iff.mp ((Checker.checkRow_stops_iff _ _ _ _ _).mpr hresult)
  refine reads_of_stop ?_ ?_
  · rw [Run.errorLine?, if_pos hfast, Run.messages, List.filterMap_reverse,
      List.filterMap_cons_none rfl, messages_behind, List.reverse_append, List.reverse_reverse,
      Message.errorLine?_append (List.any_reverse.trans (hpast hfast))]
    exact Message.errorLine?_of_lines herror fun message => Checker.line_of_checkRow
  · rw [Run.notices, List.reverse_cons, List.filterMap_append, notices_behind]
    exact List.append_nil _

-- `before` are the data rows that are done.
theorem runFrom_reads (done : Nat) (before : List Csv.Row) (past : List Event)
    (rows : List Csv.Row)
    (hpast : job.checker.failFast = true →
      (past.filterMap Event.message?).any Message.isError = false)
    (hanswers : (job.runFrom none (done + 1) (job.checker.tracksAfter job.schema before) past
      rows).fault = none) :
    job.Reads (job.runFrom none (done + 1) (job.checker.tracksAfter job.schema before) past rows)
      done rows.length (past.reverse.filterMap Event.notice?) := by
  induction rows generalizing done before past with
  | nil =>
      refine reads_of_end ?_ (finish_notices done past)
      rw [Run.errorLine?]
      split
      · exact errorLine?_finish (hpast ‹_›)
      · rfl
  | cons row rows ih =>
      simp only [runFrom] at hanswers ⊢
      split
      · rename_i hheader
        rw [if_pos hheader] at hanswers
        refine Reads.cons ?_
        rw [← notices_behind (done + 1) [] past]
        refine ih (done + 1) before _ (fun hfast => ?_) hanswers
        exact job.any_isError_behind (done + 1) List.any_nil (hpast hfast)
      · rename_i hdata
        rw [if_neg hdata] at hanswers
        let check := job.checker.checkRow job.schema (done + 1)
          (job.checker.tracksAfter job.schema before) row
        cases hresult : check.result with
        | error halt =>
            simp only [check] at hresult
            simp only [hresult] at hanswers ⊢
            cases halt with
            | fault fault => cases hanswers
            | firstError => exact reads_of_firstError rows.length hpast hresult
        | ok tracks =>
            simp only [check] at hresult
            simp only [hresult] at hanswers ⊢
            rw [Checker.tracks_of_checkRow hresult] at hanswers ⊢
            refine Reads.cons ?_
            rw [← notices_behind (done + 1) check.messages past]
            refine ih (done + 1) (before ++ [row]) _ (fun hfast => ?_) hanswers
            exact any_isError_behind _ (Checker.any_isError_of_checkRow hfast hresult) (hpast hfast)

theorem run_reads (feed : Feed) (hfeed : feed.fault = none) (hanswers : (job.run feed).fault = none) :
    job.Reads (job.run feed) 0 feed.rows.length [] := by
  simp only [run, hfeed, ← job.checker.tracksAfter_nil] at hanswers ⊢
  exact runFrom_reads 0 [] _ feed.rows (fun _ => rfl) hanswers

end Job

namespace Engine

-- The notices of a run over rows, and where they end. A display is told nothing about a table
-- without rows, whatever their number is said to be.
theorem rowsRun_notices (engine : Engine) (files : FileTree) (schema : Schema) {feed : Feed}
    (hfeed : feed.fault = none) (display : Display) {total : Option Int} {n : Int}
    (hknown : (total <|> feed.size) = some n) (hzero : n = 0 → feed.rows = [])
    (hanswers : (engine.rowsRun files schema feed (some display) total).fault = none) :
    let run := engine.rowsRun files schema feed (some display) total
    ∃ lines ≤ feed.rows.length,
      (lines : Int) = (run.errorLine? engine.failFast).getD feed.rows.length ∧
        run.notices = (List.range' 1 lines).flatMap (Job.toldNotices display n) := by
  intro run
  obtain ⟨lines, hlines, hline, hnotices⟩ := Job.run_reads feed hfeed hanswers
  refine ⟨lines, hlines, ?_, ?_⟩
  · rwa [Nat.zero_add, Nat.zero_add] at hline
  · refine hnotices.trans (List.flatMap_congr fun line hmem => ?_)
    have hn : n ≠ 0 := by
      rintro rfl
      rw [hzero rfl, List.length_nil, Nat.le_zero] at hlines
      rw [hlines] at hmem
      cases hmem
    simp only [Job.notices, Job.progress, hknown, if_neg hn, Job.toldNotices]

theorem rowsRun_tells (engine : Engine) (files : FileTree) (schema : Schema) {feed : Feed}
    (hfeed : feed.fault = none) (display : Display) {total : Option Int} {n : Int}
    (hknown : (total <|> feed.size) = some n) (hnonneg : 0 ≤ n) (hzero : n = 0 → feed.rows = [])
    (hanswers : (engine.rowsRun files schema feed (some display) total).fault = none)
    (total' : Option Int) :
    ∃ lines ≤ feed.rows.length, (engine.rowsRun files schema feed (some display) total).Tells
      (engine.rowsRun files schema feed none total') engine.failFast feed.rows.length display n
        lines := by
  let run := engine.rowsRun files schema feed (some display) total
  obtain ⟨lines, hlines, hline, hnotices⟩ :=
    engine.rowsRun_notices files schema hfeed display hknown hzero hanswers
  refine ⟨lines, hlines, ?_⟩
  constructor
  case outcome_eq => exact (rowsRun_display_eq engine files schema feed _ none total total').2
  case lines_eq => exact hline
  case counts_eq =>
    change run.counts = _
    rw [Run.counts, hnotices, List.map_flatMap, List.filter_flatMap]
    simp only [Job.counts_toldNotices]
    exact List.map_eq_flatMap.symm
  case notices_iff =>
    change (∃ share, run.notices = _) ↔ _
    rw [hnotices]
    exact Job.exists_share_iff hnonneg _

-- Whatever a display complains about, the run comes to the same as without one. It is told how
-- many rows are done, one row after the other, and each time the share unless it has complained.
-- That fails only where shares are missing: no number is near the total. The total of a file is
-- the number of its rows, and a run that does not stop ends there.
theorem progress_tells (engine : Engine) (files : FileTree) (schema : Schema) (display : Display) :
    (∀ (rows : List Csv.Row) (size total : Option Int) (n : Int),
      let run display := (engine.validate files schema { rows, size } display total).1
      (total <|> size) = some n → 0 < n → (run (some display)).fault = none →
        ∃ lines ≤ rows.length,
          (run (some display)).Tells (run none) engine.failFast rows.length display n lines) ∧
    (∀ (path encoding : String) (checksUtf8 : Bool) (source : Csv.Source),
      let run display := (engine.validateFile files schema path encoding checksUtf8 display).1
      let n := source.rows.rows.length
      rowSource? files path encoding checksUtf8 = some source → (run (some display)).fault = none →
        (∃ lines ≤ n, (run (some display)).Tells (run none) engine.failFast n display n lines) ∧
          ((run (some display)).errorLine? engine.failFast = none → 0 < n →
            (run (some display)).counts.getLast? = some (.count n n))) := by
  constructor
  · intro rows size total n run hknown hpos hanswers
    exact engine.rowsRun_tells files schema rfl display hknown hpos.le (fun hn => absurd hn hpos.ne')
      hanswers total
  · intro path encoding checksUtf8 source run n hsource hanswers
    have hfault : source.rows.fault = none := by
      cases hfault : source.rows.fault with
      | none => rfl
      | some fault =>
          simp only [run, validateFile_eq, fileRun_some_of_fault hsource hfault] at hanswers
          cases hanswers
    have hrun : run (some display) = engine.rowsRun files schema (.ofFile source.rows)
        (some display) (some n) := by
      simp only [run, validateFile_eq]
      exact fileRun_some_eq_rowsRun hsource hfault display
    have hquiet : run none = engine.rowsRun files schema (.ofFile source.rows) none none := by
      simp only [run, validateFile_eq]
      exact fileRun_none_of_rowSource? hsource
    rw [hrun] at hanswers
    obtain ⟨lines, hlines, htells⟩ := @rowsRun_tells engine files schema (.ofFile source.rows) hfault
      display _ _ rfl (Int.natCast_nonneg n)
      (fun hn => List.length_eq_zero_iff.mp (Int.ofNat_eq_zero.mp hn)) hanswers none
    rw [hrun, hquiet]
    refine ⟨⟨lines, hlines, htells⟩, fun hline hpos => ?_⟩
    have hall : lines = n := Int.ofNat_inj.mp (htells.lines_eq.trans (by rw [hline]; rfl))
    rw [htells.counts_eq, hall, List.getLast?_map, List.getLast?_range', if_neg hpos.ne',
      Nat.add_sub_cancel_left]
    rfl

-- Complains about the share of the first row and about the count of the second one.
def touchyDisplay : Display
  | 1, .percent _ => some "share"
  | 2, .count .. => some "count"
  | _, _ => none

def filledCells : Schema where
  hasHeader := true
  permitEmpty := false
  columns := [{ name := "A", rules := [.notEmpty], directives := [] }]

-- An empty cell before the last row.
def gappedRows : List Csv.Row :=
  [["A"], ["x"], [""], ["y"]]

def gappedRun (display : Option Display) : Run :=
  (validate { failFast := true } .bare filledCells (.ofTable gappedRows) display none).1

def touchyFileRun (display : Option Display) : Run :=
  (validateFile {} brokenFiles emptyCells "a.csv" "utf-8" true display).1

-- The table is read up to the third of its four rows, and the file to its end.
theorem progress_tells_of_touchyDisplay :
    let run := gappedRun (some touchyDisplay)
    let fileRun := touchyFileRun (some touchyDisplay)
    run.fault = none ∧ (∃ lines ≤ 4, run.Tells (gappedRun none) true 4 touchyDisplay 4 lines) ∧
      (run.notices.map fun (notice, complaint) => (notice.line, complaint)) =
        [("processing 1 of 4", none), ("25%", some "share"), ("processing 2 of 4", some "count"),
          ("processing 3 of 4", none), ("75%", none)] ∧
      fileRun.fault = none ∧
      (∃ lines ≤ 2, fileRun.Tells (touchyFileRun none) false 2 touchyDisplay 2 lines) ∧
      fileRun.counts.getLast? = some (.count 2 2) := by
  intro run fileRun
  have hanswers : run.fault = none := rfl
  have hsource : rowSource? brokenFiles "a.csv" "utf-8" true = some brokenSource := rfl
  have hrows : brokenSource.rows = ⟨[["a\nb"], ["x"]], none⟩ := by cbv
  have hfile : fileRun.fault = none := by
    have hrun := @fileRun_some_eq_rowsRun {} brokenFiles emptyCells _ _ _ _ hsource (by rw [hrows])
      touchyDisplay
    rw [hrows] at hrun
    simp only [fileRun, touchyFileRun, validateFile_eq]
    exact congrArg Run.fault hrun
  have htable := (progress_tells { failFast := true } .bare filledCells touchyDisplay).1
    gappedRows (some 4) none 4 rfl (by decide) hanswers
  obtain ⟨htells, hlast⟩ := (progress_tells {} brokenFiles emptyCells touchyDisplay).2 "a.csv"
    "utf-8" true brokenSource hsource hfile
  rw [hrows] at htells hlast
  exact ⟨hanswers, htable, rfl, hfile, htells, hlast rfl (by decide)⟩

-- Behind this number of rows no share is told, although nobody complains about the count.
def largeTotal : Nat :=
  2 ^ (54 + 970)

def headlessCells : Schema :=
  { filledCells with hasHeader := false }

def oneRowRun : Run :=
  (validate {} .bare headlessCells { rows := [["x"]] } (some Display.silent) (some largeTotal)).1

theorem progress_lacks_share_of_largeTotal :
    0 < largeTotal ∧ oneRowRun.fault = none ∧ oneRowRun.notices = [(.count largeTotal 1, none)] ∧
      ∀ share, oneRowRun.notices ≠
        (List.range' 1 1).flatMap (Display.silent.answers largeTotal share) := by
  have hpos : 0 < largeTotal := by
    rw [largeTotal]
    exact pow_pos Nat.two_pos _
  have hanswers : oneRowRun.fault = none := rfl
  obtain ⟨lines, -, hline, htold⟩ := @rowsRun_notices {} .bare headlessCells
    { rows := [["x"]] } rfl Display.silent (some largeTotal) largeTotal rfl
    (fun hzero => absurd (Int.natCast_eq_zero.mp hzero) hpos.ne') hanswers
  have hlarge : Binary64.overflowBound ≤ largeTotal := by
    rw [Binary64.overflowBound, largeTotal, pow_add]
    exact Nat.mul_le_mul_right _ (by decide)
  have hnotices : oneRowRun.notices = [(.count largeTotal 1, none)] := by
    obtain rfl : lines = 1 := Int.ofNat_inj.mp hline
    refine htold.trans ?_
    rw [List.range'_one, List.flatMap_singleton,
      Job.toldNotices_of_no_share ((share?_eq_none_iff largeTotal 1).mpr hlarge)]
    rfl
  refine ⟨hpos, hanswers, hnotices, ?_⟩
  intro share htold
  rw [hnotices, List.range'_one, List.flatMap_singleton] at htold
  cases htold

end Engine

end TableSchema
