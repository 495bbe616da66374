import TableSchema.Number.Decimal
import TableSchema.Pattern

namespace TableSchema

-- What a rule is given in parentheses: a quoted text, a column, or a bare word.
inductive Argument
  | text (value : String)
  | column (name : String)
  | bare (word : String)
  deriving DecidableEq, Repr

-- What a cell is compared with: a text, or the cell of a column in the same row.
inductive Operand
  | text (value : String)
  | column (name : String)
  deriving DecidableEq, Repr

inductive Comparison
  | equal
  | different
  | within
  | startsWith
  | endsWith
  deriving DecidableEq, Repr

-- How long a cell may be. An absent bound does not limit it.
inductive LengthBounds
  | exactly (count : Nat)
  | between (least most : Option Nat)
  deriving DecidableEq, Repr

-- What a column demands of its cells.
inductive Rule
  | regex (pattern : Pattern)
  | compare (test : Comparison) (operand : Operand)
  | notEmpty
  | empty
  | length (bounds : LengthBounds)
  | range (low high : Option Number.Decimal)
  | positiveInteger
  | uuid4
  | uri
  | date
  | dateTime
  | unique
  | fileExists (root : Option Operand)
  | or (left right : Rule)

/-! Rules as text -/

def Argument.render : Argument → String
  | .text value =>
    "\"" ++ String.ofList (value.toList.flatMap fun c => if c = '"' then ['\\', '"'] else [c]) ++ "\""
  | .column name => "$" ++ name
  | .bare word => word

def Operand.toArgument : Operand → Argument
  | .text value => .text value
  | .column name => .column name

def Comparison.name : Comparison → String
  | .equal => "is"
  | .different => "not"
  | .within => "in"
  | .startsWith => "starts"
  | .endsWith => "ends"

-- A bound as it is written, with a star for an absent one.
def boundText {α : Type} (text : α → String) : Option α → String
  | none => "*"
  | some bound => text bound

namespace Rule

def name : Rule → String
  | .regex _ => "regex"
  | .compare test _ => test.name
  | .notEmpty => "notEmpty"
  | .empty => "empty"
  | .length _ => "length"
  | .range .. => "range"
  | .positiveInteger => "positiveInteger"
  | .uuid4 => "uuid4"
  | .uri => "uri"
  | .date => "xDate"
  | .dateTime => "xDateTime"
  | .unique => "unique"
  | .fileExists _ => "fileExists"
  | .or .. => "or"

-- The arguments with which the rule can be written. The two sides of an
-- alternative are no arguments.
def arguments : Rule → List Argument
  | .regex pattern => [.text pattern.text]
  | .compare _ operand => [operand.toArgument]
  | .length (.exactly count) => [.bare (toString count)]
  | .length (.between least most) => [.bare (boundText toString least), .bare (boundText toString most)]
  | .range low high =>
    [.bare (boundText Number.Decimal.render low), .bare (boundText Number.Decimal.render high)]
  | .fileExists (some root) => [root.toArgument]
  | _ => []

-- The rule as it can be written in a schema.
def render : Rule → String
  | .or left right => left.render ++ " or " ++ right.render
  | rule =>
    match rule.arguments with
    | [] => rule.name
    | arguments => rule.name ++ "(" ++ String.intercalate ", " (arguments.map Argument.render) ++ ")"

-- How many calls stand on each other while the rule is rendered. Either side of
-- alternatives has calls of its own, and so have arguments.
def depth : Rule → Nat
  | .or left right => max left.depth right.depth + 1
  | rule => if rule.arguments.isEmpty then 2 else 5

-- The columns that the rule refers to, in the order in which it names them.
def references : Rule → List String
  | .or left right => left.references ++ right.references
  | rule => rule.arguments.filterMap fun
    | .column name => some name
    | _ => none

/-! Sameness -/

def sameBound : Option Number.Decimal → Option Number.Decimal → Bool
  | none, none => true
  | some a, some b => a.sameNumber b
  | _, _ => false

-- Patterns are the same if their texts are, numbers if they denote one number.
def same : Rule → Rule → Bool
  | .regex a, .regex b => a.text == b.text
  | .compare s a, .compare t b => s == t && a == b
  | .notEmpty, .notEmpty => true
  | .empty, .empty => true
  | .length a, .length b => a == b
  | .range low high, .range low' high' => sameBound low low' && sameBound high high'
  | .positiveInteger, .positiveInteger => true
  | .uuid4, .uuid4 => true
  | .uri, .uri => true
  | .date, .date => true
  | .dateTime, .dateTime => true
  | .unique, .unique => true
  | .fileExists a, .fileExists b => a == b
  | .or a b, .or c d => a.same c && b.same d
  | _, _ => false

end Rule

end TableSchema
