namespace TableSchema

inductive Severity
  | schema
  | error
  | warning
  deriving DecidableEq, Repr

-- A column is named by its position in a text or by its name in a table.
inductive ColumnPlace
  | position (number : Int)
  | name (text : String)
  deriving DecidableEq, Repr

-- What is reported about a schema or a table. The culprit is the rule or the
-- directive that the report comes from.
structure Message where
  severity : Severity
  text : String
  line : Option Int := none
  column : Option ColumnPlace := none
  culprit : Option String := none
  deriving DecidableEq, Repr

def Severity.label : Severity → String
  | .schema => "SCHEMA"
  | .error => "ERROR"
  | .warning => "WARNING"

-- What stands in front of a report in a listing.
def Severity.lead : Severity → String
  | .schema => ""
  | .error => "Error:   "
  | .warning => "Warning: "

def ColumnPlace.text : ColumnPlace → String
  | .position number => toString number
  | .name text => text

namespace Message

def isError (message : Message) : Bool :=
  message.severity == .error

def isWarning (message : Message) : Bool :=
  message.severity == .warning

-- Line and column, as far as they are known.
def location (message : Message) : String :=
  String.intercalate ", "
    ((message.line.map fun line => "line: " ++ toString line).toList ++
      (message.column.map fun column => "column: " ++ column.text).toList)

def head (message : Message) : String :=
  "[" ++ message.severity.label ++ "] " ++ message.text

def render (message : Message) : String :=
  if message.line.isNone && message.column.isNone then message.head
  else message.head ++ " (at " ++ message.location ++ ")"

-- The lines that a log has on the report.
def logLines (message : Message) : List String :=
  [message.head] ++
    (if message.line.isNone && message.column.isNone then [] else ["Location: " ++ message.location]) ++
    (match message.culprit with
      | some culprit => if culprit.isEmpty then [] else ["Culprit: " ++ culprit]
      | none => [])

def listed (message : Message) : String :=
  message.severity.lead ++ message.text

-- One report a line.
def listing (messages : List Message) : String :=
  String.intercalate "\n" (messages.map listed)

def containsError (messages : List Message) : Bool :=
  messages.any isError

-- The texts of several reports in one.
def summary (messages : List Message) : String :=
  String.intercalate "; " (messages.map Message.text)

-- Without a report there is no failure to sum up.
structure NoReport where
  deriving DecidableEq, Repr

def NoReport.message (_ : NoReport) : String :=
  "SchemaParseError requires at least one message"

def failureText : List Message → Except NoReport String
  | [] => .error {}
  | messages => .ok (summary messages)

end Message

end TableSchema
