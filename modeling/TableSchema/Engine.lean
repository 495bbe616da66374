import TableSchema.Frame
import TableSchema.Run

namespace TableSchema

-- Checks tables, and keeps the reports of its last run.
structure Engine where
  failFast : Bool := false
  resolver : PathResolver := PathResolver.default
  results : List Message := []

namespace Engine

def errors (engine : Engine) : List Message :=
  engine.results.filter Message.isError

def warnings (engine : Engine) : List Message :=
  engine.results.filter Message.isWarning

def hasErrors (engine : Engine) : Bool :=
  engine.results.any Message.isError

def hasWarnings (engine : Engine) : Bool :=
  engine.results.any Message.isWarning

-- Warnings do not fail a run.
def passed (engine : Engine) : Bool :=
  !engine.hasErrors

def checker (engine : Engine) (files : FileTree) : Checker where
  failFast := engine.failFast
  resolver := engine.resolver
  files := files

/-! Runs -/

-- A run over rows. Without a total the size of the feed is taken.
def rowsRun (engine : Engine) (files : FileTree) (schema : Schema) (feed : Feed)
    (display : Option Display) (total : Option Int) : Run :=
  Job.run { checker := engine.checker files, schema, display, total := total <|> feed.size } feed

-- The number of rows in a file, which only a display needs.
def fileTotal (source : Csv.Source) (display : Option Display) :
    Except Csv.ReadFault (Option Int) :=
  match display with
  | none => .ok none
  | some _ => source.countRows.map fun count => some (count : Int)

-- The reports on the lines of a file that are ill-formed, if they are wanted.
def lineReports (source : Csv.Source) (checksUtf8 : Bool) : Except Csv.ReadFault (List Message) :=
  if checksUtf8 then source.checkUtf8 else .ok []

/-! Calls, each with the engine that it leaves -/

-- The engine at the start of a run. What it has reported before is gone.
def reset (engine : Engine) : Engine :=
  { engine with results := [] }

-- The engine behind a run, whose reports are added one by one.
def reporting (engine : Engine) (run : Run) : Engine :=
  { engine with results := engine.results ++ run.messages }

def validate (engine : Engine) (files : FileTree) (schema : Schema) (feed : Feed)
    (display : Option Display) (total : Option Int) : Run × Engine :=
  let engine := engine.reset
  let run := engine.rowsRun files schema feed display total
  (run, engine.reporting run)

-- Rows are checked only if no line is ill-formed.
def validateSource (engine : Engine) (files : FileTree) (schema : Schema) (source : Csv.Source)
    (checksUtf8 : Bool) (display : Option Display) : Run × Engine :=
  match lineReports source checksUtf8 with
  | .error fault => (.failed (.unread fault), engine)
  | .ok (message :: messages) =>
    (.reporting (message :: messages), { engine with results := message :: messages })
  | .ok [] =>
    match fileTotal source display with
    | .error fault => (.failed (.unread fault), engine)
    | .ok total => engine.validate files schema (.ofFile source.rows) display total

def validateFile (engine : Engine) (files : FileTree) (schema : Schema) (path encoding : String)
    (checksUtf8 : Bool) (display : Option Display) : Run × Engine :=
  let engine := engine.reset
  match Csv.Source.ofPath files path encoding "," with
  | .error fault => (.failed (.unopened fault), engine)
  | .ok source => engine.validateSource files schema source checksUtf8 display

-- The frame is converted before the run starts, so that the engine stays as it is if
-- that fails.
def validateFrame (engine : Engine) (files : FileTree) (schema : Schema) (frame : Frame)
    (display : Option Display) : Run × Engine :=
  match frame.table schema.hasHeader with
  | .error reason => (.failed (.unconverted reason), engine)
  | .ok rows => engine.validate files schema (.ofTable rows) display none

end Engine

end TableSchema
