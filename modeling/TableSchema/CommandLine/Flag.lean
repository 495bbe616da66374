namespace TableSchema.CommandLine

inductive Flag
  | help
  | traceParser
  | failFast
  | path
  | caseSensitivePaths
  | csvEncoding
  | schemaEncoding
  | disableUtf8Validation
  | showProgress
  | envFile
  | version
  deriving DecidableEq, Repr

-- How flags are written.
def flagNames : List (String × Flag) := [
  ("-h", .help), ("--help", .help), ("--trace-parser", .traceParser), ("-t", .traceParser),
  ("--fail-fast", .failFast), ("-f", .failFast), ("--path", .path), ("-p", .path),
  ("--case-sensitive-paths", .caseSensitivePaths), ("-c", .caseSensitivePaths),
  ("--csv-encoding", .csvEncoding), ("-x", .csvEncoding),
  ("--csv-schema-encoding", .schemaEncoding), ("-y", .schemaEncoding),
  ("--disable-utf8-validation", .disableUtf8Validation), ("--show-progress", .showProgress),
  ("--env-file", .envFile), ("--version", .version)]

def flagNamed? (name : String) : Option Flag :=
  flagNames.lookup name

-- How many arguments a flag takes.
inductive Arity
  | none
  | one
  | two
  deriving DecidableEq, Repr

def Flag.arity : Flag → Arity
  | .csvEncoding | .schemaEncoding | .envFile => .one
  | .path => .two
  | _ => .none

end TableSchema.CommandLine
