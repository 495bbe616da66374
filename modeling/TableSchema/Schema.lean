import TableSchema.Text.Quoted
import TableSchema.Text.Blank
import TableSchema.Rule

namespace TableSchema

open TableSchema.Text

-- How the rules of a column are applied.
inductive Directive
  | isOptional
  | ignoreCase
  | warning
  | matchIsFalse
  deriving DecidableEq, Repr

def Directive.all : List Directive :=
  [.isOptional, .ignoreCase, .warning, .matchIsFalse]

def Directive.keyword : Directive → String
  | .isOptional => "@Optional"
  | .ignoreCase => "@IgnoreCase"
  | .warning => "@Warning"
  | .matchIsFalse => "@MatchIsFalse"

structure Column where
  name : String
  rules : List Rule
  directives : List Directive

namespace Column

-- An empty cell of the column satisfies every rule.
def isOptional (column : Column) : Bool :=
  column.directives.contains .isOptional

def ignoreCase (column : Column) : Bool :=
  column.directives.contains .ignoreCase

-- The column's failures are warnings.
def isWarning (column : Column) : Bool :=
  column.directives.contains .warning

-- A cell fails a rule of the column if the rule holds.
def matchIsFalse (column : Column) : Bool :=
  column.directives.contains .matchIsFalse

def same (a b : Column) : Bool :=
  a.name == b.name && a.directives == b.directives && a.rules.length == b.rules.length &&
    (a.rules.zip b.rules).all fun (r, s) => r.same s

end Column

-- What a table has to look like. The number of columns is that of the list.
structure Schema where
  hasHeader : Bool
  permitEmpty : Bool
  columns : List Column

namespace Schema

def total (schema : Schema) : Nat :=
  schema.columns.length

def columnNames (schema : Schema) : List String :=
  schema.columns.map Column.name

-- The position of the first column with the name.
def columnIndex? (schema : Schema) (name : String) : Option Nat :=
  schema.columnNames.idxOf? name

def same (a b : Schema) : Bool :=
  a.hasHeader == b.hasHeader && a.permitEmpty == b.permitEmpty &&
    a.columns.length == b.columns.length &&
    (a.columns.zip b.columns).all fun (c, d) => c.same d

/-! Checked parts -/

inductive ShapeFault
  | columnName (name : String)
  | totalNotPositive
  | totalMismatch (total : Int) (found : Nat)
  deriving DecidableEq, Repr

def ShapeFault.message : ShapeFault → String
  | .columnName name => "Invalid column name: " ++ quoted name
  | .totalNotPositive => "@TotalColumns must be a positive integer"
  | .totalMismatch total found =>
    "@TotalColumns = " ++ toString total ++ " but number of columns defined = " ++ toString found

def isColumnName (name : String) : Bool :=
  !name.isEmpty && strip name.toList == name.toList

-- A name of a column has no white space around it.
def checkedColumn (name : String) (rules : List Rule) (directives : List Directive) :
    Except ShapeFault Column :=
  if isColumnName name then .ok { name, rules, directives } else .error (.columnName name)

-- A schema has as many columns as it says, and at least one.
def checked (total : Int) (hasHeader permitEmpty : Bool) (columns : List Column) :
    Except ShapeFault Schema :=
  if total < 1 then .error .totalNotPositive
  else if total ≠ columns.length then .error (.totalMismatch total columns.length)
  else .ok { hasHeader, permitEmpty, columns }

end Schema

end TableSchema
