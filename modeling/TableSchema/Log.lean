import TableSchema.Text.Case

namespace TableSchema.Log

inductive Level
  | unset
  | debug
  | info
  | warning
  | error
  | critical
  deriving DecidableEq, Repr

namespace Level

def number : Level → Nat
  | unset => 0
  | debug => 10
  | info => 20
  | warning => 30
  | error => 40
  | critical => 50

def name : Level → String
  | unset => "NOTSET"
  | debug => "DEBUG"
  | info => "INFO"
  | warning => "WARNING"
  | error => "ERROR"
  | critical => "CRITICAL"

-- Two levels have a second name.
def ofName? : String → Option Level
  | "NOTSET" => some unset
  | "DEBUG" => some debug
  | "INFO" => some info
  | "WARN" | "WARNING" => some warning
  | "ERROR" => some error
  | "CRITICAL" | "FATAL" => some critical
  | _ => none

-- A name that is not one of a level, in capital letters.
structure Fault where
  name : String
  deriving DecidableEq, Repr

def Fault.message (fault : Fault) : String :=
  "Unknown log level: " ++ fault.name

-- The level with a name in any letter case.
def named (name : String) : Except Fault Level :=
  let name := Text.upperText name
  match ofName? name with
  | some level => .ok level
  | none => .error ⟨name⟩

end Level

structure Record where
  level : Level
  text : String
  deriving DecidableEq, Repr

-- The records that a log with the level keeps.
def keep (least : Level) (records : List Record) : List Record :=
  records.filter fun record => least.number ≤ record.level.number

end TableSchema.Log
