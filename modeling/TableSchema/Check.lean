import TableSchema.Csv.Reader
import TableSchema.Message
import TableSchema.Rule.Evaluation
import TableSchema.Schema

namespace TableSchema

-- Why checking ends before the rows do: at the first error if it is told to, or
-- at a rule that has no answer.
inductive Halt
  | firstError
  | fault (fault : Rule.Fault)
  deriving DecidableEq, Repr

-- The reports of a check in their order, and what it comes to unless it halts.
structure Check (α : Type) where
  messages : List Message
  result : Except Halt α

namespace Check

def done {α : Type} (value : α) : Check α :=
  ⟨[], .ok value⟩

def bind {α β : Type} (first : Check α) (next : α → Check β) : Check β :=
  match first.result with
  | .error halt => ⟨first.messages, .error halt⟩
  | .ok value =>
    let second := next value
    ⟨first.messages ++ second.messages, second.result⟩

instance : Monad Check where
  pure := done
  bind := bind

def halt {α : Type} (reason : Halt) : Check α :=
  ⟨[], .error reason⟩

def report (failFast : Bool) (message : Message) : Check Unit :=
  ⟨[message], if failFast && message.isError then .error .firstError else .ok ()⟩

end Check

-- How rows are checked.
structure Checker where
  failFast : Bool
  resolver : PathResolver
  files : FileTree

-- A column during a run: each of its rules with what it remembers.
structure Track where
  column : Column
  rules : List (Rule × Rule.Memory)

def Track.ofColumn (column : Column) : Track where
  column := column
  rules := column.rules.map fun rule => (rule, rule.initialMemory)

structure Cell where
  column : Column
  line : Nat
  value : String

/-! Reports -/

def widthMessage (total found line : Nat) : Message where
  severity := .error
  text := "Expected @TotalColumns of " ++ toString total ++ " and found " ++ toString found ++
    " on line " ++ toString line
  line := some line
  culprit := some "@TotalColumns"

-- The report on a rule that a cell fails.
def Cell.message (cell : Cell) (rule : Rule) : Message where
  severity := if cell.column.isWarning then .warning else .error
  text := rule.render ++ " fails for line: " ++ toString cell.line ++ ", column: " ++
    cell.column.name ++ ", value: \"" ++ cell.value ++ "\""
  line := some cell.line
  column := some (.name cell.column.name)
  culprit := some rule.render

def emptyMessage : Message where
  severity := .error
  text := "CSV file contains no data rows and @permitEmpty was not specified"
  culprit := some "@permitEmpty"

/-! Checks -/

namespace Checker

def context (checker : Checker) (names : List String) (row : Csv.Row) (column : Column) :
    Rule.Context where
  row := row
  columns := names
  ignoreCase := column.ignoreCase
  resolver := checker.resolver
  files := checker.files

-- Whether an answer to a rule of the column is a failure.
def isFailure (column : Column) (holds : Bool) : Bool :=
  holds == column.matchIsFalse

def checkRule (checker : Checker) (context : Rule.Context) (cell : Cell) (rule : Rule)
    (memory : Rule.Memory) : Check (Rule × Rule.Memory) :=
  match rule.evaluate context cell.value memory with
  | (.error fault, _) => .halt (.fault fault)
  | (.ok holds, after) => do
    if isFailure cell.column holds then Check.report checker.failFast (cell.message rule)
    return (rule, after)

def checkRules (checker : Checker) (context : Rule.Context) (cell : Cell) :
    List (Rule × Rule.Memory) → Check (List (Rule × Rule.Memory))
  | [] => return []
  | (rule, memory) :: rest => do
    let first ← checker.checkRule context cell rule memory
    let others ← checker.checkRules context cell rest
    return first :: others

-- An empty cell of an optional column is not looked at.
def checkCell (checker : Checker) (context : Rule.Context) (line : Nat) (track : Track)
    (value : String) : Check Track := do
  if track.column.isOptional && value.isEmpty then return track
  let rules ← checker.checkRules context { column := track.column, line, value } track.rules
  return { track with rules }

def checkCells (checker : Checker) (names : List String) (row : Csv.Row) (line : Nat) :
    List Track → List String → Check (List Track)
  | track :: tracks, value :: values => do
    let first ← checker.checkCell (checker.context names row track.column) line track value
    let others ← checker.checkCells names row line tracks values
    return first :: others
  | tracks, _ => return tracks

-- A row of another width than the schema's has no cells to check.
def checkRow (checker : Checker) (schema : Schema) (line : Nat) (tracks : List Track)
    (row : Csv.Row) : Check (List Track) := do
  if row.length ≠ schema.total then
    Check.report checker.failFast (widthMessage schema.total row.length line)
    return tracks
  else checker.checkCells schema.columnNames row line tracks row

end Checker

end TableSchema
