import TableSchema.Check
import TableSchema.Csv.Source
import TableSchema.Log
import TableSchema.Progress

namespace TableSchema

-- Rows to check: how many there are if that is known before they are read, and
-- the fault that ends them if there is one.
structure Feed where
  rows : List Csv.Row
  size : Option Int := none
  fault : Option Csv.ReadFault := none

-- Rows of a table in memory.
def Feed.ofTable (rows : List Csv.Row) : Feed where
  rows := rows
  size := some rows.length

-- Rows of a file, which are counted only by reading it.
def Feed.ofFile (rows : Csv.Rows) : Feed where
  rows := rows.rows
  fault := rows.fault

inductive Event
  | began (columns : Nat) (failFast : Bool)
  | reported (message : Message)
  | shown (notice : Notice) (complaint : Option String)
  | notShown (complaint : String)
  | stopped (line : Nat)
  | completed (rows errors warnings : Nat)
  deriving DecidableEq, Repr

-- Why a run has no outcome.
inductive RunFault
  | unopened (fault : Csv.OpenFault)
  | unread (fault : Csv.ReadFault)
  | unconverted (reason : String)
  | undecided (fault : Rule.Fault)
  deriving DecidableEq, Repr

-- What happened in a run, and the fault that ended it if there is one.
structure Run where
  events : List Event
  fault : Option RunFault

/-! Views of a run -/

namespace Event

def message? : Event → Option Message
  | .reported message => some message
  | _ => none

-- A notice that a display was told, and what it complained about.
def notice? : Event → Option (Notice × Option String)
  | .shown notice complaint => some (notice, complaint)
  | _ => none

def complaintRecord (complaint : String) : Log.Record :=
  ⟨.warning, "Progress callback failed: " ++ complaint⟩

def switchText (on : Bool) : String :=
  if on then "True" else "False"

def records : Event → List Log.Record
  | .began columns failFast => [⟨.info, "Validating against " ++ toString columns ++
      " column(s), fail fast: " ++ switchText failFast⟩]
  | .reported message => message.logLines.map fun line => ⟨.debug, line⟩
  | .shown _ complaint => (complaint.map complaintRecord).toList
  | .notShown complaint => [complaintRecord complaint]
  | .stopped line => [⟨.info, "Stopped at line " ++ toString line ++ " on first error"⟩]
  | .completed rows errors warnings => [⟨.info, "Validated " ++ toString rows ++ " row(s): " ++
      toString errors ++ " error(s), " ++ toString warnings ++ " warning(s)"⟩]

end Event

namespace Run

def messages (run : Run) : List Message :=
  run.events.filterMap Event.message?

def notices (run : Run) : List (Notice × Option String) :=
  run.events.filterMap Event.notice?

-- The notices that were shown without a complaint.
def shown (run : Run) : List Notice :=
  run.notices.filterMap fun (notice, complaint) => if complaint.isNone then some notice else none

def records (run : Run) : List Log.Record :=
  run.events.flatMap Event.records

def outcome (run : Run) : Except RunFault (List Message) :=
  match run.fault with
  | some fault => .error fault
  | none => .ok run.messages

-- A run that never began.
def failed (fault : RunFault) : Run :=
  ⟨[], some fault⟩

-- A run that has no more than some reports.
def reporting (messages : List Message) : Run :=
  ⟨messages.map .reported, none⟩

end Run

/-! Running over rows -/

-- What is checked against, how, and who watches it. A display is told nothing
-- if the number of rows is unknown or zero.
structure Job where
  checker : Checker
  schema : Schema
  display : Option Display := none
  total : Option Int := none

namespace Job

-- What a display is told about a line.
def told (display : Display) (total : Int) (line : Nat) : List Event :=
  let count := Notice.count total line
  match display line count with
  | some complaint => [.shown count (some complaint)]
  | none =>
    .shown count none ::
      match share? total line with
      | none => [.notShown "int too large to convert to float"]
      | some share => [.shown (.percent share) (display line (.percent share))]

def progress (job : Job) (line : Nat) : List Event :=
  match job.display, job.total with
  | some display, some total => if total = 0 then [] else told display total line
  | _, _ => []

-- The rows of a schema without its header, up to a line.
def dataRows (job : Job) (lines : Nat) : Nat :=
  if job.schema.hasHeader then lines - 1 else lines

-- The events at the end of so many lines. `past` holds the events before, the
-- last one first.
def finish (job : Job) (lines : Nat) (past : List Event) : List Event :=
  let rows := job.dataRows lines
  let past :=
    if rows = 0 && !job.schema.permitEmpty then .reported emptyMessage :: past else past
  let messages := past.filterMap Event.message?
  (.completed rows (messages.countP Message.isError) (messages.countP Message.isWarning) ::
    past).reverse

-- Runs over the rows that begin at `line`.
def runFrom (job : Job) (fault : Option Csv.ReadFault) (line : Nat) (tracks : List Track)
    (past : List Event) : List Csv.Row → Run
  | [] =>
    match fault with
    | some fault => ⟨past.reverse, some (.unread fault)⟩
    | none => ⟨job.finish (line - 1) past, none⟩
  | row :: rows =>
    if line = 1 && job.schema.hasHeader then
      runFrom job fault (line + 1) tracks ((job.progress line).reverse ++ past) rows
    else
      let check := job.checker.checkRow job.schema line tracks row
      let past := (check.messages.map Event.reported).reverse ++ past
      match check.result with
      | .error (.fault fault) => ⟨past.reverse, some (.undecided fault)⟩
      | .error .firstError =>
        ⟨(.stopped line :: ((job.progress line).reverse ++ past)).reverse, none⟩
      | .ok tracks => runFrom job fault (line + 1) tracks ((job.progress line).reverse ++ past) rows

-- A run over the rows of a feed.
def run (job : Job) (feed : Feed) : Run :=
  job.runFrom feed.fault 1 (job.schema.columns.map Track.ofColumn)
    [.began job.schema.total job.checker.failFast] feed.rows

end Job

end TableSchema
