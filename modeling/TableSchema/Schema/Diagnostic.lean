import TableSchema.Message
import TableSchema.Rule.Build
import TableSchema.Schema
import TableSchema.Schema.Token

namespace TableSchema.Schema

-- Why a text is no schema.
inductive Cause
  | noTotal
  | badTotal
  | badGlobals
  | badDefinition
  | badColumn
  | unknownRule (name : String)
  | badArguments (name : String) (fault : Rule.ArgumentFault)
  | badPattern (pattern : String) (fault : Pattern.Fault)
  | unknownDirective (name : String)
  | repeatedDirective (directive : Directive)
  | wrongTotal (total found : Nat)
  | badReference (column rule : String)
  deriving DecidableEq, Repr

def Cause.message : Cause → String
  | .noTotal => "Schema must start with @TotalColumns directive"
  | .badTotal => "@TotalColumns must be a positive integer"
  | .badGlobals => "Global directives contain invalid text"
  | .badDefinition => "Invalid column definition"
  | .badColumn => "Column definition contains invalid text"
  | .unknownRule name => "Unknown rule \"" ++ name ++ "\""
  | .badArguments name fault => "Invalid arguments for rule " ++ name ++ ": " ++ fault.message
  | .badPattern pattern fault =>
    "Invalid regex pattern \"" ++ pattern ++ "\": " ++ fault.message pattern
  | .unknownDirective name => "Unknown column directive \"@" ++ name ++ "\""
  | .repeatedDirective directive =>
    "Column definition contains duplicate directive " ++ directive.keyword
  | .wrongTotal total found =>
    "@TotalColumns = " ++ toString total ++ " but number of columns defined = " ++ toString found
  | .badReference column rule => "Column: " ++ column ++ " has invalid cross reference " ++ rule

-- A cause and where it was found.
structure Diagnostic where
  cause : Cause
  line : Nat
  column : Nat
  deriving DecidableEq, Repr

def Diagnostic.toMessage (diagnostic : Diagnostic) : Message where
  severity := .schema
  text := diagnostic.cause.message
  line := some diagnostic.line
  column := some (.position diagnostic.column)

-- How reading a schema can fail: at its syntax, at one place; at the checks of
-- the whole schema, with all that they find; or at a limit.
inductive ParseFault
  | syntaxError (diagnostic : Diagnostic)
  | rejected (diagnostics : List Diagnostic)
  | totalTooLong (digits : Nat)
  | unorderedBounds
  | patternLimit (fault : Pattern.Fault)
  | tooDeep
  deriving DecidableEq, Repr

namespace ParseFault

def diagnostics : ParseFault → List Diagnostic
  | .syntaxError diagnostic => [diagnostic]
  | .rejected diagnostics => diagnostics
  | _ => []

def messages (fault : ParseFault) : List Message :=
  fault.diagnostics.map Diagnostic.toMessage

def message : ParseFault → String
  | .totalTooLong digits =>
    "Exceeds the limit (4300 digits) for integer string conversion: value has " ++
      toString digits ++ " digits; use sys.set_int_max_str_digits() to increase the limit"
  | .unorderedBounds => "bounds without an order"
  | .patternLimit fault => fault.message ""
  | .tooDeep => "maximum recursion depth exceeded"
  | fault => Message.summary fault.messages

end ParseFault

-- What the parser did, for its log.
inductive Step
  | globals (line : Nat)
  | total (count : Nat)
  | globalDirective (name : String)
  | column (line : Nat)
  | columnName (name : String)
  | rule (text : String)
  | combined (text : String)
  | columnDirective (directive : Directive)
  | failure (diagnostic : Diagnostic)
  | rejection (count : Nat)
  | acceptance (columns : Nat)
  deriving DecidableEq, Repr

def Step.text : Step → String
  | .globals line => "line " ++ toString line ++ ": parsing global directives"
  | .total count => "@TotalColumns " ++ toString count
  | .globalDirective name => "@" ++ name
  | .column line => "line " ++ toString line ++ ": parsing column definition"
  | .columnName name => "column \"" ++ name ++ "\""
  | .rule text => "  rule " ++ text
  | .combined text => "  combined " ++ text
  | .columnDirective directive => "  directive " ++ directive.keyword
  | .failure diagnostic =>
    "line " ++ toString diagnostic.line ++ ", column " ++ toString diagnostic.column ++
      ": failure: " ++ diagnostic.cause.message
  | .rejection count => "schema rejected with " ++ toString count ++ " message(s)"
  | .acceptance columns => "schema accepted with " ++ toString columns ++ " column(s)"

end TableSchema.Schema
