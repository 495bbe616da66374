import TableSchema.Proofs.Table.Reports

namespace TableSchema

theorem Run.messages_reporting (messages : List Message) : (reporting messages).messages = messages := by
  rw [Run.messages, reporting, Job.messages_reported]

namespace Engine

/-! Runs by themselves -/

-- A run over a file that has been opened, without the engine that it leaves.
def sourceRun (engine : Engine) (files : FileTree) (schema : Schema) (source : Csv.Source)
    (checksUtf8 : Bool) (display : Option Display) : Run :=
  match lineReports source checksUtf8 with
  | .error fault => .failed (.unread fault)
  | .ok (message :: messages) => .reporting (message :: messages)
  | .ok [] =>
    match fileTotal source display with
    | .error fault => .failed (.unread fault)
    | .ok total => engine.rowsRun files schema (.ofFile source.rows) display total

def fileRun (engine : Engine) (files : FileTree) (schema : Schema) (path encoding : String)
    (checksUtf8 : Bool) (display : Option Display) : Run :=
  match Csv.Source.ofPath files path encoding "," with
  | .error fault => .failed (.unopened fault)
  | .ok source => engine.sourceRun files schema source checksUtf8 display

-- A call that starts a run leaves the reports of the run, whatever there were before.
theorem validate_eq (engine : Engine) (files : FileTree) (schema : Schema) (feed : Feed)
    (display : Option Display) (total : Option Int) :
    engine.validate files schema feed display total =
      (engine.rowsRun files schema feed display total,
        { engine with results := (engine.rowsRun files schema feed display total).messages }) :=
  rfl

theorem validateSource_eq (engine : Engine) (files : FileTree) (schema : Schema)
    (source : Csv.Source) (checksUtf8 : Bool) (display : Option Display) :
    engine.reset.validateSource files schema source checksUtf8 display =
      (engine.sourceRun files schema source checksUtf8 display,
        { engine with
          results := (engine.sourceRun files schema source checksUtf8 display).messages }) := by
  simp only [validateSource, sourceRun]
  cases lineReports source checksUtf8 with
  | error fault => rfl
  | ok messages =>
      cases messages with
      | cons message messages =>
          simp only [Run.messages_reporting]
          rfl
      | nil =>
          cases fileTotal source display with
          | error fault => rfl
          | ok total => exact validate_eq engine.reset files schema (.ofFile source.rows) display total

theorem validateFile_eq (engine : Engine) (files : FileTree) (schema : Schema)
    (path encoding : String) (checksUtf8 : Bool) (display : Option Display) :
    engine.validateFile files schema path encoding checksUtf8 display =
      (engine.fileRun files schema path encoding checksUtf8 display,
        { engine with
          results := (engine.fileRun files schema path encoding checksUtf8 display).messages }) := by
  simp only [validateFile, fileRun]
  cases Csv.Source.ofPath files path encoding "," with
  | error fault => rfl
  | ok source => exact engine.validateSource_eq files schema source checksUtf8 display

end Engine

end TableSchema
