import TableSchema.Text.Lines
import TableSchema.Text.Case
import TableSchema.Schema.Diagnostic

namespace TableSchema.Schema

open TableSchema.Text

-- The outcome of a part of the parser, with the steps that led to it.
structure Parse (α : Type) where
  steps : List Step
  result : Except ParseFault α

namespace Parse

def ok {α : Type} (value : α) : Parse α :=
  { steps := [], result := .ok value }

def bind {α β : Type} (first : Parse α) (next : α → Parse β) : Parse β :=
  match first.result with
  | .error fault => { steps := first.steps, result := .error fault }
  | .ok value => { steps := first.steps ++ (next value).steps, result := (next value).result }

instance : Monad Parse where
  pure := ok
  bind := bind

def note (step : Step) : Parse Unit :=
  { steps := [step], result := .ok () }

def abort {α : Type} (fault : ParseFault) : Parse α :=
  { steps := [], result := .error fault }

-- Fails at a token.
def fail {α : Type} (cause : Cause) (token : Token) : Parse α :=
  let diagnostic : Diagnostic := { cause, line := token.line, column := token.column }
  { steps := [.failure diagnostic], result := .error (.syntaxError diagnostic) }

end Parse

-- The place where a text without tokens fails.
def Token.origin : Token :=
  { kind := .endOfLine, text := "", line := 1, column := 1 }

def current (tokens : List Token) : Token :=
  tokens.headD Token.origin

/-! Global directives -/

inductive GlobalOption
  | noHeader
  | permitEmpty
  deriving DecidableEq, Repr

-- Names of directives are compared in lower case.
def directiveKey (name : String) : String :=
  String.ofList (name.toList.map asciiLower)

def GlobalOption.key : GlobalOption → String
  | .noHeader => "noheader"
  | .permitEmpty => "permitempty"

-- The options in the order in which they may be written.
def GlobalOption.all : List GlobalOption :=
  [.noHeader, .permitEmpty]

-- The option that a directive names among those that may still follow, and
-- those that may follow it.
def optionOf? (token : Token) (slots : List GlobalOption) :
    Option (GlobalOption × List GlobalOption) :=
  if token.kind = .directive then
    match slots.dropWhile fun slot => slot.key != directiveKey token.text with
    | [] => none
    | slot :: later => some (slot, later)
  else none

def globalOptions (slots : List GlobalOption) : List Token → Parse (List GlobalOption)
  | [] => return []
  | token :: rest =>
    if token.kind = .endOfLine then return []
    else match optionOf? token slots with
      | none => Parse.fail .badGlobals token
      | some (option, later) => do
        Parse.note (.globalDirective token.text)
        let options ← globalOptions later rest
        return option :: options

-- The digits of a total may be as many as an integer may have.
def totalLimit : Nat := 4300

-- The number of columns that a token says.
def totalOf (token : Token) : Parse Nat :=
  let digits := token.text.toList
  if token.kind ≠ .word ∨ digits.isEmpty ∨ !digits.all isAsciiDigit then Parse.fail .badTotal token
  else if totalLimit < digits.length then Parse.abort (.totalTooLong digits.length)
  else
    let total := ofDigits (digits.map fun c => c.toNat - 0x30)
    if total < 1 then Parse.fail .badTotal token else return total

structure Globals where
  total : Nat
  options : List GlobalOption
  deriving DecidableEq, Repr

def isTotalColumns (token : Token) : Bool :=
  token.kind == .directive && directiveKey token.text == "totalcolumns"

def globalsOf (tokens : List Token) : Parse Globals := do
  if isTotalColumns (current tokens) then
    let rest := tokens.drop 1
    let total ← totalOf (current rest)
    Parse.note (.total total)
    let options ← globalOptions GlobalOption.all (rest.drop 1)
    return { total, options }
  else Parse.fail .noTotal (current tokens)

/-! Rules -/

def argumentOf? (token : Token) : Option Argument :=
  match token.kind with
  | .text => some (.text token.text)
  | .column => some (.column token.text)
  | .word => some (.bare token.text)
  | _ => none

-- Arguments with commas between them, and the closing parenthesis. The number
-- of tokens they take comes with them.
def argumentsFrom : List Token → Parse (List Argument × Nat)
  | [] => Parse.fail .badColumn Token.origin
  | token :: after =>
    match argumentOf? token with
    | none => Parse.fail .badColumn token
    | some argument =>
      match after with
      | [] => Parse.fail .badColumn Token.origin
      | next :: rest =>
        if next.kind = .comma then do
          let (arguments, used) ← argumentsFrom rest
          return (argument :: arguments, used + 2)
        else if next.kind = .closing then return ([argument], 2)
        else Parse.fail .badColumn next

-- The arguments behind the name of a rule, if there are parentheses.
def arguments (tokens : List Token) : Parse (List Argument × Nat) := do
  if (current tokens).kind = .opening then
    let inner := tokens.drop 1
    if (current inner).kind = .closing then return ([], 2)
    else
      let (arguments, used) ← argumentsFrom inner
      return (arguments, used + 1)
  else return ([], 0)

-- The rule that a name with arguments denotes. What is wrong with them is
-- reported at the name.
def buildRule (token : Token) (name : Rule.Name) (arguments : List Argument) : Parse Rule :=
  match Rule.build name arguments with
  | .ok rule => return rule
  | .error (.arguments fault) => Parse.fail (.badArguments token.text fault) token
  | .error (.pattern text (.malformed cause position)) =>
    Parse.fail (.badPattern text (.malformed cause position)) token
  | .error (.pattern _ fault) => Parse.abort (.patternLimit fault)
  | .error .unorderedBounds => Parse.abort .unorderedBounds

-- A rule that begins at a token, and the number of tokens it takes behind it.
def ruleAt (token : Token) (rest : List Token) : Parse (Rule × Nat) :=
  if token.kind ≠ .word then Parse.fail .badColumn token
  else match Rule.Name.ofText? token.text with
    | none => Parse.fail (.unknownRule token.text) token
    | some name => do
      let (arguments, used) ← arguments rest
      let rule ← buildRule token name arguments
      Parse.note (.rule rule.render)
      return (rule, used)

def isOr (token : Token) : Bool :=
  token.kind == .word && token.text == "or"

-- How deep the rendering of alternatives may go. It is counted for a parser that
-- nothing else stands on the stack below.
def maxDepth : Nat := 996

-- Joins two alternatives. They are rendered also where no log is kept.
def join (left right : Rule) : Parse Rule :=
  if maxDepth < (Rule.or left right).depth then Parse.abort .tooDeep
  else do
    Parse.note (.combined (Rule.or left right).render)
    return .or left right

-- The alternatives to a rule, if any follow, joined from the left.
def alternatives (left : Rule) : List Token → Parse (Rule × Nat)
  | [] => return (left, 0)
  | token :: rest =>
    if isOr token then do
      let (right, used) ← ruleAt (current rest) (rest.drop 1)
      let joined ← join left right
      let (rule, more) ← alternatives joined ((rest.drop 1).drop used)
      return (rule, 2 + used + more)
    else return (left, 0)
termination_by tokens => tokens.length
decreasing_by simp only [List.length_drop, List.length_cons]; omega

-- The rules up to the first token that cannot begin one, and the tokens from
-- there on.
def rulesFrom : List Token → Parse (List Rule × List Token)
  | [] => return ([], [])
  | token :: rest =>
    if token.kind = .word then do
      let (first, used) ← ruleAt token rest
      let (rule, more) ← alternatives first (rest.drop used)
      let (rules, remaining) ← rulesFrom ((rest.drop used).drop more)
      return (rule :: rules, remaining)
    else return ([], token :: rest)
termination_by tokens => tokens.length
decreasing_by simp only [List.length_drop, List.length_cons]; omega

/-! Columns -/

def directiveOf? (name : String) : Option Directive :=
  Directive.all.find? fun directive => directiveKey directive.keyword == directiveKey ("@" ++ name)

-- The directives up to the first token that is none, and the tokens from there
-- on. No directive is written twice.
def directivesFrom (seen : List Directive) : List Token → Parse (List Directive × List Token)
  | [] => return ([], [])
  | token :: rest =>
    if token.kind = .directive then
      match directiveOf? token.text with
      | none => Parse.fail (.unknownDirective token.text) token
      | some directive =>
        if seen.contains directive then Parse.fail (.repeatedDirective directive) token
        else do
          Parse.note (.columnDirective directive)
          let (directives, remaining) ← directivesFrom (seen ++ [directive]) rest
          return (directive :: directives, remaining)
    else return ([], token :: rest)

def columnOf (tokens : List Token) : Parse Column := do
  let name := current tokens
  let colon := current (tokens.drop 1)
  if name.kind ≠ .word then Parse.fail .badDefinition name
  else if colon.kind ≠ .colon then Parse.fail .badDefinition colon
  else
    Parse.note (.columnName name.text)
    let (rules, rest) ← rulesFrom (tokens.drop 2)
    let (directives, rest) ← directivesFrom [] rest
    if (current rest).kind ≠ .endOfLine then Parse.fail .badColumn (current rest)
    else return { name := name.text, rules, directives }

-- A line of a schema with its number.
structure Line where
  number : Nat
  tokens : List Token

def columnsOf : List Line → Parse (List Column)
  | [] => return []
  | line :: lines => do
    Parse.note (.column line.number)
    let first ← columnOf line.tokens
    let others ← columnsOf lines
    return first :: others

/-! Checks of the whole schema -/

-- A rule refers only to columns of the schema.
def referenceDiagnostics (names : List String) (column : Column) (token : Token) :
    List Diagnostic :=
  (column.rules.filter fun rule => rule.references.any fun name => !names.contains name).map
    fun rule =>
      { cause := .badReference column.name rule.render, line := token.line, column := token.column }

def diagnostics (total : Nat) (columns : List Column) (start : Token) (starts : List Token) :
    List Diagnostic :=
  let names := columns.map Column.name
  (if columns.length = total then []
    else [{ cause := .wrongTotal total columns.length, line := start.line, column := start.column }]) ++
    (columns.zip starts).flatMap fun (column, token) => referenceDiagnostics names column token

/-! The whole text -/

-- The lines that are not blank, with their numbers in the text.
def linesOf (text : List Char) : List Line :=
  ((splitLines (dropByteOrderMark text)).zipIdx 1).filterMap fun (line, number) =>
    if isBlankLine line then none else some { number, tokens := tokenize line number }

-- Checks the columns against the global directives.
def finish (globals : Globals) (columns : List Column) (start : Token) (starts : List Token) :
    Parse Schema := do
  let found := diagnostics globals.total columns start starts
  if found.isEmpty then
    Parse.note (.acceptance columns.length)
    return {
      hasHeader := !globals.options.contains .noHeader
      permitEmpty := globals.options.contains .permitEmpty
      columns }
  else
    Parse.note (.rejection found.length)
    Parse.abort (.rejected found)

def schemaOf : List Line → Parse Schema
  | [] => Parse.fail .noTotal Token.origin
  | first :: lines => do
    Parse.note (.globals first.number)
    let globals ← globalsOf first.tokens
    let columns ← columnsOf lines
    finish globals columns (current first.tokens) (lines.map fun line => current line.tokens)

-- Reads a text as a schema.
def parse (text : String) : Parse Schema :=
  schemaOf (linesOf text.toList)

-- Whether the parser keeps a log, and the log of its last text.
structure Parser where
  traces : Bool
  log : List Step

def Parser.new (traces : Bool) : Parser :=
  { traces, log := [] }

def Parser.parse (parser : Parser) (text : String) : Except ParseFault Schema × Parser :=
  let outcome := Schema.parse text
  (outcome.result, { parser with log := if parser.traces then outcome.steps else [] })

end TableSchema.Schema
