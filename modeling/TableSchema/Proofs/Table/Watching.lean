import TableSchema.Proofs.Table.FileRuns

namespace TableSchema.Engine

-- The file whose rows a run checks: it can be opened, and none of its lines is
-- reported as ill-formed.
def rowSource? (files : FileTree) (path encoding : String) (checksUtf8 : Bool) : Option Csv.Source :=
  match Csv.Source.ofPath files path encoding "," with
  | .error _ => none
  | .ok source =>
    match lineReports source checksUtf8 with
    | .ok [] => some source
    | _ => none

section Files

variable {engine : Engine} {files : FileTree} {schema : Schema} {path encoding : String}
  {checksUtf8 : Bool} {source : Csv.Source}

-- A file whose rows are not checked cannot be read, or some of its lines are ill-formed.
theorem fileRun_cases_of_rowSource?_eq_none
    (h : rowSource? files path encoding checksUtf8 = none) :
    (∃ fault, ∀ display,
        engine.fileRun files schema path encoding checksUtf8 display = .failed fault) ∨
      ∃ source message messages, lineReports source checksUtf8 = .ok (message :: messages) ∧
        ∀ display, engine.fileRun files schema path encoding checksUtf8 display =
          .reporting (message :: messages) := by
  simp only [rowSource?] at h
  simp only [fileRun]
  split
  · exact .inl ⟨_, fun _ => rfl⟩
  · rename_i source hsource
    rw [hsource] at h
    simp only [sourceRun]
    cases hreports : lineReports source checksUtf8 with
    | error fault => exact .inl ⟨_, fun _ => rfl⟩
    | ok messages =>
        cases messages with
        | nil => simp [hreports] at h
        | cons message messages => exact .inr ⟨source, message, messages, hreports, fun _ => rfl⟩

-- Before rows are checked it makes no difference who watches.
theorem fileRun_of_rowSource?_eq_none (h : rowSource? files path encoding checksUtf8 = none)
    (display : Option Display) :
    engine.fileRun files schema path encoding checksUtf8 display =
      engine.fileRun files schema path encoding checksUtf8 none := by
  rcases fileRun_cases_of_rowSource?_eq_none h with ⟨fault, hrun⟩ | ⟨_, _, _, -, hrun⟩
  · rw [hrun, hrun]
  · rw [hrun, hrun]

theorem eq_of_rowSource? (h : rowSource? files path encoding checksUtf8 = some source) :
    Csv.Source.ofPath files path encoding "," = .ok source ∧ lineReports source checksUtf8 = .ok [] := by
  simp only [rowSource?] at h
  split at h
  · cases h
  · rename_i found hfound
    split at h
    · rename_i hreports
      obtain rfl := Option.some.inj h
      exact ⟨hfound, hreports⟩
    · cases h

variable (h : rowSource? files path encoding checksUtf8 = some source)

include h

theorem fileRun_none_of_rowSource? :
    engine.fileRun files schema path encoding checksUtf8 none =
      engine.rowsRun files schema (.ofFile source.rows) none none := by
  obtain ⟨hsource, hreports⟩ := eq_of_rowSource? h
  simp only [fileRun, hsource, sourceRun, hreports, fileTotal]

theorem fileRun_some_of_fault {fault : Csv.ReadFault} (hfault : source.rows.fault = some fault)
    (display : Display) :
    engine.fileRun files schema path encoding checksUtf8 (some display) =
      .failed (.unread fault) := by
  obtain ⟨hsource, hreports⟩ := eq_of_rowSource? h
  have htotal : fileTotal source (some display) = .error fault := by
    simp only [fileTotal, Csv.Source.countRows, hfault]
    rfl
  simp only [fileRun, hsource, sourceRun, hreports, htotal]

-- The rows are counted for a display before they are checked.
theorem fileRun_some_eq_rowsRun (hfault : source.rows.fault = none) (display : Display) :
    engine.fileRun files schema path encoding checksUtf8 (some display) =
      engine.rowsRun files schema (.ofFile source.rows) (some display)
        (some source.rows.rows.length) := by
  obtain ⟨hsource, hreports⟩ := eq_of_rowSource? h
  have htotal : fileTotal source (some display) = .ok (some source.rows.rows.length) := by
    simp only [fileTotal, Csv.Source.countRows, hfault]
    rfl
  simp only [fileRun, hsource, sourceRun, hreports, htotal]

theorem fileRun_some_of_fault_eq_none (hfault : source.rows.fault = none) (display : Display) :
    ∃ total, engine.fileRun files schema path encoding checksUtf8 (some display) =
      engine.rowsRun files schema (.ofFile source.rows) (some display) total :=
  ⟨_, fileRun_some_eq_rowsRun h hfault display⟩

end Files

-- A run over rows comes to the same wherever they are from and whoever watches.
theorem rowsRun_eq_of_rows (engine : Engine) (files : FileTree) (schema : Schema)
    {feed feed' : Feed} (hrows : feed.rows = feed'.rows) (hfault : feed.fault = feed'.fault)
    (display display' : Option Display) (total total' : Option Int) :
    (engine.rowsRun files schema feed display total).messages =
        (engine.rowsRun files schema feed' display' total').messages ∧
      (engine.rowsRun files schema feed display total).outcome =
        (engine.rowsRun files schema feed' display' total').outcome := by
  have hcheck : (engine.checker files).checkFeed schema feed =
      (engine.checker files).checkFeed schema feed' := by
    simp only [Checker.checkFeed, hrows, hfault]
  simp only [Run.outcome, messages_rowsRun, fault_rowsRun_eq_faultOf, hcheck, hfault, and_self]

theorem rowsRun_display_eq (engine : Engine) (files : FileTree) (schema : Schema) (feed : Feed)
    (display display' : Option Display) (total total' : Option Int) :
    (engine.rowsRun files schema feed display total).messages =
        (engine.rowsRun files schema feed display' total').messages ∧
      (engine.rowsRun files schema feed display total).outcome =
        (engine.rowsRun files schema feed display' total').outcome :=
  rowsRun_eq_of_rows engine files schema rfl rfl display display' total total'

-- A run over rows that end in a fault comes to the fault, without messages, if
-- their check comes to its end without a report.
theorem rowsRun_eq_failed_iff (engine : Engine) (files : FileTree) (schema : Schema)
    (rows : Csv.Rows) {fault : Csv.ReadFault} (hfault : rows.fault = some fault) :
    let run := engine.rowsRun files schema (.ofFile rows) none none
    let check := (engine.checker files).checkFeed schema (.ofFile rows)
    (run.outcome = .error (.unread fault) ∧ run.messages = []) ↔
      check.result = .ok () ∧ check.messages = [] := by
  intro run check
  obtain ⟨hmessages, hrun⟩ : run.messages = check.messages ∧
      run.fault = Job.faultOf (some fault) check.result := hfault ▸ Job.run_eq_checkFeed _ (.ofFile rows)
  rw [Run.outcome, hmessages, hrun]
  refine and_congr_left fun _ => ?_
  rcases check.result with (_ | other) | ⟨⟩
  · simp [Job.faultOf]
  · simp [Job.faultOf]
  · simp [Job.faultOf]

-- A run over a file comes to the same with a display and without one exactly if
-- the rows can be read to their end, or those that can be read are checked without
-- a report and without a fault.
theorem validateFile_display_eq_iff (engine : Engine) (files : FileTree) (schema : Schema)
    (path encoding : String) (checksUtf8 : Bool) (display : Display) :
    let quiet := engine.validateFile files schema path encoding checksUtf8 none
    let shown := engine.validateFile files schema path encoding checksUtf8 (some display)
    (shown.1.outcome = quiet.1.outcome ∧ shown.2.results = quiet.2.results) ↔
      ∀ source ∈ rowSource? files path encoding checksUtf8, ∀ fault ∈ source.rows.fault,
        let check := (engine.checker files).checkFeed schema (.ofFile source.rows)
        check.result = .ok () ∧ check.messages = [] := by
  intro quiet shown
  simp only [quiet, shown, validateFile_eq]
  cases hsource : rowSource? files path encoding checksUtf8 with
  | none =>
      rw [fileRun_of_rowSource?_eq_none hsource]
      exact iff_of_true ⟨rfl, rfl⟩ fun source h => absurd h (Option.not_mem_none source)
  | some source =>
      simp only [Option.mem_def, Option.some.injEq, forall_eq']
      cases hfault : source.rows.fault with
      | none =>
          obtain ⟨total, hshown⟩ : ∃ total,
              engine.fileRun files schema path encoding checksUtf8 (some display) =
                engine.rowsRun files schema (.ofFile source.rows) (some display) total :=
            fileRun_some_of_fault_eq_none hsource hfault display
          rw [hshown, fileRun_none_of_rowSource? hsource]
          have hsame := rowsRun_display_eq engine files schema (.ofFile source.rows) (some display) none
            total none
          exact iff_of_true ⟨hsame.2, hsame.1⟩ fun fault h => absurd h (Option.not_mem_none fault)
      | some fault =>
          rw [fileRun_some_of_fault hsource hfault, fileRun_none_of_rowSource? hsource]
          have hiff := rowsRun_eq_failed_iff engine files schema source.rows hfault
          simp only [Option.some.injEq, forall_eq']
          exact (and_congr eq_comm eq_comm).trans hiff

-- A file in UTF-8 with a row, behind which a character is cut off.
def cutOffFiles : FileTree where
  entries := [(["a.csv"], .file [0x78, 0x0A, 0xC3])]
  workingDirectory := []

def emptyCells : Schema where
  hasHeader := false
  permitEmpty := false
  columns := [{ name := "A", rules := [.empty], directives := [] }]

def cutOffRun (display : Option Display) : Run × Engine :=
  validateFile { failFast := true } cutOffFiles emptyCells "a.csv" "utf-8" false display

-- A run that stops at the first error never comes to the fault, unless the rows
-- are counted first for a display.
theorem validateFile_display_ne_of_cutOffFiles :
    let seen (display : Option Display) :=
      ((cutOffRun display).1.fault.isSome, (cutOffRun display).2.results.map Message.text)
    seen none = (false, ["empty fails for line: 1, column: A, value: \"x\""]) ∧
      seen (some fun _ _ => none) = (true, []) := by
  intro seen
  dsimp only [seen]
  exact ⟨by cbv, by cbv⟩

end TableSchema.Engine
