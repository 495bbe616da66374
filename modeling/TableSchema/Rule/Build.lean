import TableSchema.Number.Integer
import TableSchema.Rule

namespace TableSchema.Rule

-- The names under which rules are written.
inductive Name
  | regex
  | compare (test : Comparison)
  | notEmpty
  | empty
  | length
  | range
  | positiveInteger
  | uuid4
  | uri
  | date
  | dateTime
  | unique
  | fileExists
  deriving DecidableEq, Repr

def Name.all : List Name := [
  .regex, .compare .equal, .compare .different, .compare .within, .compare .startsWith,
  .compare .endsWith, .notEmpty, .empty, .length, .range, .positiveInteger, .uuid4, .uri, .date,
  .dateTime, .unique, .fileExists]

def Name.text : Name → String
  | .regex => "regex"
  | .compare test => test.name
  | .notEmpty => "notEmpty"
  | .empty => "empty"
  | .length => "length"
  | .range => "range"
  | .positiveInteger => "positiveInteger"
  | .uuid4 => "uuid4"
  | .uri => "uri"
  | .date => "xDate"
  | .dateTime => "xDateTime"
  | .unique => "unique"
  | .fileExists => "fileExists"

def Name.ofText? (text : String) : Option Name :=
  Name.all.find? fun name => name.text == text

-- Why arguments do not fit a rule.
inductive ArgumentFault
  | notOne (name : Name)
  | notOperand (name : Name)
  | notPattern
  | unexpected (name : Name)
  | notBare (name : Name)
  | notNumber (name : Name) (word : String)
  | lengthCount
  | lengthNegative
  | lengthUnbounded
  | lengthOrder
  | rangeCount
  | rangeOrder
  deriving DecidableEq, Repr

def ArgumentFault.message : ArgumentFault → String
  | .notOne name => name.text ++ " expects exactly one argument"
  | .notOperand name => name.text ++ " expects a quoted string or a column reference"
  | .notPattern => "regex expects a quoted pattern"
  | .unexpected name => name.text ++ " takes no arguments"
  | .notBare name => name.text ++ " expects unquoted numbers or *"
  | .notNumber name word => name.text ++ " bound " ++ word ++ " is not a number"
  | .lengthCount => "length expects one or two arguments"
  | .lengthNegative => "length bounds must not be negative"
  | .lengthUnbounded => "length with one argument requires a number"
  | .lengthOrder => "length minimum exceeds maximum"
  | .rangeCount => "range expects two arguments"
  | .rangeOrder => "range minimum exceeds maximum"

-- Why no rule can be built. Bounds without an order are those of which one is
-- not a number.
inductive BuildFault
  | arguments (fault : ArgumentFault)
  | pattern (text : String) (fault : Pattern.Fault)
  | unorderedBounds
  deriving DecidableEq, Repr

def operandOf (name : Name) : List Argument → Except BuildFault Operand
  | [.text value] => .ok (.text value)
  | [.column column] => .ok (.column column)
  | [.bare _] => .error (.arguments (.notOperand name))
  | _ => .error (.arguments (.notOne name))

-- A bound read by `read?`, or none for a star.
def boundOf {α : Type} (name : Name) (read? : List Char → Option α) :
    Argument → Except BuildFault (Option α)
  | .bare word =>
    if word = "*" then .ok none
    else match read? word.toList with
      | some bound => .ok (some bound)
      | none => .error (.arguments (.notNumber name word))
  | _ => .error (.arguments (.notBare name))

def lengthBound : Argument → Except BuildFault (Option Int) :=
  boundOf .length Number.integerOfText?

def isNegative : Option Int → Bool
  | some bound => bound < 0
  | none => false

def buildLength : List Argument → Except BuildFault Rule
  | [argument] => do
    let bound ← lengthBound argument
    if isNegative bound then throw (.arguments .lengthNegative)
    match bound with
    | none => throw (.arguments .lengthUnbounded)
    | some count => return .length (.exactly count.toNat)
  | [first, second] => do
    let least ← lengthBound first
    let most ← lengthBound second
    if isNegative least || isNegative most then throw (.arguments .lengthNegative)
    match least, most with
    | some low, some high =>
      if high < low then throw (.arguments .lengthOrder)
      else return .length (.between (some low.toNat) (some high.toNat))
    | _, _ => return .length (.between (least.map Int.toNat) (most.map Int.toNat))
  | _ => throw (.arguments .lengthCount)

def rangeBound : Argument → Except BuildFault (Option Number.Decimal) :=
  boundOf .range Number.Decimal.ofText?

def buildRange : List Argument → Except BuildFault Rule
  | [first, second] => do
    let low ← rangeBound first
    let high ← rangeBound second
    match low, high with
    | some a, some b =>
      match a.compare? b with
      | none => throw .unorderedBounds
      | some .gt => throw (.arguments .rangeOrder)
      | some _ => return .range low high
    | _, _ => return .range low high
  | _ => throw (.arguments .rangeCount)

def buildRegex (arguments : List Argument) : Except BuildFault Rule := do
  match ← operandOf .regex arguments with
  | .column _ => throw (.arguments .notPattern)
  | .text text =>
    match Pattern.ofText text with
    | .ok pattern => return .regex pattern
    | .error fault => throw (.pattern text fault)

-- A rule that stands alone.
def plain (name : Name) (rule : Rule) (arguments : List Argument) : Except BuildFault Rule :=
  if arguments.isEmpty then .ok rule else .error (.arguments (.unexpected name))

-- The rule that a name with arguments denotes. Empty parentheses mean the same
-- as none.
def build (name : Name) (arguments : List Argument) : Except BuildFault Rule :=
  match name with
  | .regex => buildRegex arguments
  | .compare test => (operandOf name arguments).map (.compare test)
  | .notEmpty => plain name .notEmpty arguments
  | .empty => plain name .empty arguments
  | .length => buildLength arguments
  | .range => buildRange arguments
  | .positiveInteger => plain name .positiveInteger arguments
  | .uuid4 => plain name .uuid4 arguments
  | .uri => plain name .uri arguments
  | .date => plain name .date arguments
  | .dateTime => plain name .dateTime arguments
  | .unique => plain name .unique arguments
  | .fileExists =>
    if arguments.isEmpty then .ok (.fileExists none)
    else (operandOf name arguments).map fun root => .fileExists (some root)

-- The rule that a written name denotes. Other names denote none.
def build? (name : String) (arguments : List Argument) : Option (Except BuildFault Rule) :=
  (Name.ofText? name).map fun name => build name arguments

end TableSchema.Rule
