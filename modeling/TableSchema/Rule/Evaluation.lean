import Std.Data.HashSet.Basic
import TableSchema.Calendar
import TableSchema.PathResolver
import TableSchema.Rule

namespace TableSchema.Rule

open TableSchema.Text

-- What a rule may look at besides the cell.
structure Context where
  row : List String
  columns : List String
  ignoreCase : Bool
  resolver : PathResolver
  files : FileTree

-- What a rule remembers of the cells before: the values of a column, or what
-- the two sides of an alternative remember.
inductive Memory
  | blank
  | seen (values : Std.HashSet String)
  | both (left right : Memory)

namespace Memory

def values : Memory → Std.HashSet String
  | .seen values => values
  | _ => ∅

def left : Memory → Memory
  | .both left _ => left
  | _ => .blank

def right : Memory → Memory
  | .both _ right => right
  | _ => .blank

end Memory

-- Why a rule has no answer for a cell.
inductive Fault
  | unknownColumn (name : String)
  | missingCell
  | unorderedBound
  | path (fault : PathResolver.Fault)
  deriving DecidableEq, Repr

namespace Context

def fold (context : Context) (text : String) : String :=
  if context.ignoreCase then String.ofList (foldText text.toList) else text

-- The cell of the first column with the name.
def cell (context : Context) (name : String) : Except Fault String :=
  match context.columns.idxOf? name with
  | none => .error (.unknownColumn name)
  | some index =>
    match context.row[index]? with
    | none => .error .missingCell
    | some cell => .ok cell

def operand (context : Context) : Operand → Except Fault String
  | .text value => .ok value
  | .column name => context.cell name

end Context

/-! Tests of one cell -/

-- Whether `part` occurs in `whole`.
def occursIn (part : List Char) : List Char → Bool
  | [] => part.isEmpty
  | c :: cs => part.isPrefixOf (c :: cs) || occursIn part cs

def Comparison.holds (test : Comparison) (value expected : List Char) : Bool :=
  match test with
  | .equal => value == expected
  | .different => value != expected
  | .within => occursIn value expected
  | .startsWith => expected.isPrefixOf value
  | .endsWith => expected.isSuffixOf value

def LengthBounds.allows (length : Nat) : LengthBounds → Bool
  | .exactly count => length == count
  | .between least most => (least.all fun low => low ≤ length) && most.all fun high => length ≤ high

-- Whether a number is not on the wrong side of a bound.
def isOnSide (wrong : Ordering) (number : Number.Decimal) :
    Option Number.Decimal → Except Fault Bool
  | none => .ok true
  | some bound =>
    match number.compare? bound with
    | none => .error .unorderedBound
    | some order => .ok (order != wrong)

-- Whether a cell is a finite number within the bounds.
def isInRange (low high : Option Number.Decimal) (cs : List Char) : Except Fault Bool :=
  match Number.Decimal.ofText? cs with
  | none => .ok false
  | some number =>
    if !number.isFinite then .ok false
    else do
      if ← isOnSide .lt number low then isOnSide .gt number high else return false

def isPositiveInteger (cs : List Char) : Bool :=
  !cs.isEmpty && cs.all isAsciiDigit

def isLowerHexDigit (c : Char) : Bool :=
  isAsciiDigit c || ('a' ≤ c && c ≤ 'f')

def isVariantDigit (c : Char) : Bool :=
  c == '8' || c == '9' || c == 'a' || c == 'b'

-- The classes of the characters of a random identifier, one after the other.
def uuidClasses : List (Char → Bool) :=
  let digits (count : Nat) : List (Char → Bool) := List.replicate count isLowerHexDigit
  let hyphen : List (Char → Bool) := [(· == '-')]
  digits 8 ++ hyphen ++ digits 4 ++ hyphen ++ [(· == '4')] ++ digits 3 ++ hyphen ++
    [isVariantDigit] ++ digits 3 ++ hyphen ++ digits 12

-- Whether each character belongs to its class, and none is left over.
def fits : List (Char → Bool) → List Char → Bool
  | [], [] => true
  | test :: tests, c :: cs => test c && fits tests cs
  | _, _ => false

def isUuid4 (ignoreCase : Bool) (cs : List Char) : Bool :=
  fits uuidClasses (if ignoreCase then cs.map asciiLower else cs)

def isSlash (c : Char) : Bool :=
  c == '/' || c == '\\'

-- A root in front of a path, with a slash between them unless there is one.
def joinRoot (root path : String) : String :=
  let separated := root.isEmpty || (root.toList.getLast?.map isSlash).getD false ||
    (path.toList.head?.map isSlash).getD false
  root ++ (if separated then "" else "/") ++ path

-- The path that a cell names below a root.
def Context.rooted (context : Context) (root : Option Operand) (path : String) :
    Except Fault String :=
  match root with
  | none => .ok path
  | some operand => (context.operand operand).map fun root => joinRoot root path

/-! Evaluation -/

-- What the rule remembers before the first row.
def initialMemory : Rule → Memory
  | .unique => .seen ∅
  | .or left right => .both left.initialMemory right.initialMemory
  | _ => .blank

-- Whether a value is new, and the values with it.
def record (key : String) (values : Std.HashSet String) : Bool × Std.HashSet String :=
  if values.contains key then (false, values) else (true, values.insert key)

-- Whether a cell satisfies a rule that remembers nothing. The other rules never
-- fail here.
def holds (context : Context) (value : String) : Rule → Except Fault Bool
  | .regex pattern => .ok (pattern.accepts context.ignoreCase value.toList)
  | .compare test operand => do
    let expected ← context.operand operand
    return Comparison.holds test (context.fold value).toList (context.fold expected).toList
  | .notEmpty => .ok (!value.isEmpty)
  | .empty => .ok value.isEmpty
  | .length bounds => .ok (LengthBounds.allows value.length bounds)
  | .range low high => isInRange low high value.toList
  | .positiveInteger => .ok (isPositiveInteger value.toList)
  | .uuid4 => .ok (isUuid4 context.ignoreCase value.toList)
  | .uri => .ok (Uri.isUri value.toList)
  | .date => .ok (Calendar.isDate value.toList)
  | .dateTime => .ok (Calendar.isDateTime value.toList)
  | .fileExists root => do
    (context.resolver.pathExists context.files (← context.rooted root value)).mapError .path
  | .unique | .or .. => .ok true

-- Whether the cell satisfies the rule, and what the rule remembers afterwards.
-- The right side of an alternative is not asked if the left side holds.
def evaluate (context : Context) (value : String) (rule : Rule) (memory : Memory) :
    Except Fault Bool × Memory :=
  match rule with
  | .unique =>
    let (isNew, values) := record (context.fold value) memory.values
    (.ok isNew, .seen values)
  | .or left right =>
    match left.evaluate context value memory.left with
    | (.ok false, leftMemory) =>
      let (answer, rightMemory) := right.evaluate context value memory.right
      (answer, .both leftMemory rightMemory)
    | (answer, leftMemory) => (answer, .both leftMemory memory.right)
  | rule => (rule.holds context value, memory)

end TableSchema.Rule
