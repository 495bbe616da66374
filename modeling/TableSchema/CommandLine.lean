import TableSchema.CommandLine.Arguments
import TableSchema.Engine
import TableSchema.Schema.File

namespace TableSchema.CommandLine

inductive ExitCode
  | valid
  | badArguments
  | badSchema
  | invalid
  deriving DecidableEq, Repr

def ExitCode.number : ExitCode → Nat
  | valid => 0
  | badArguments => 1
  | badSchema => 2
  | invalid => 3

-- What a command prints, and the code it ends with.
structure Outcome where
  code : ExitCode
  output : String
  deriving DecidableEq, Repr

-- Why a command has no outcome.
inductive Fault
  | noPath
  | pathDenied (path : String)
  | pathTooLong
  | schema (fault : Schema.FileFault)
  | run (fault : RunFault)
  deriving DecidableEq, Repr

def Fault.message : Fault → String
  | .noPath => "a path is missing"
  | .pathDenied path => "[Errno 13] Permission denied: " ++ Text.quoted path
  | .pathTooLong => "a path is too long"
  | .schema fault => fault.message
  | .run (.unopened fault) => fault.message
  | .run (.unread fault) => fault.message
  | .run (.unconverted reason) => reason
  | .run (.undecided _) => "a rule has no answer for a cell"

def programName : String := "csv-schema-validator"

def versionText : String := programName ++ " 1.0.0"

-- The usage of the command.
def usageText : String :=
  String.intercalate "\n" [
    "usage: csv-schema-validate [-h] [--trace-parser] [--fail-fast]",
    "                           [--path FROM TO] [--case-sensitive-paths]",
    "                           [--csv-encoding CSV_ENCODING]",
    "                           [--csv-schema-encoding CSV_SCHEMA_ENCODING]",
    "                           [--disable-utf8-validation] [--show-progress]",
    "                           [--env-file ENV_FILE] [--version]",
    "                           csv_path schema_path"]

-- The help on the command, in eighty columns.
def helpText : String :=
  usageText ++ String.intercalate "\n" [
    "",
    "",
    "Validate a CSV file against a CSV Schema",
    "",
    "positional arguments:",
    "  csv_path              The path to the CSV file to validate",
    "  schema_path           The path to the CSV Schema file to use for validation",
    "",
    "options:",
    "  -h, --help            show this help message and exit",
    "  --trace-parser, -t    Prints a trace of the schema parse",
    "  --fail-fast, -f       Stops on the first validation error rather than",
    "                        reporting all errors",
    "  --path FROM TO, -p FROM TO",
    "                        Substitute a file path (or part of) in the CSV for a",
    "                        different file path (can be specified multiple times)",
    "  --case-sensitive-paths, -c",
    "                        Enforces case-sensitive file path checking",
    "  --csv-encoding CSV_ENCODING, -x CSV_ENCODING",
    "                        Defines the charset encoding used in the CSV file",
    "                        (default: utf-8)",
    "  --csv-schema-encoding CSV_SCHEMA_ENCODING, -y CSV_SCHEMA_ENCODING",
    "                        Defines the charset encoding used in the CSV Schema",
    "                        file (default: utf-8)",
    "  --disable-utf8-validation",
    "                        Disable UTF-8 validation for CSV files",
    "  --show-progress       Show progress",
    "  --env-file ENV_FILE   Path to a .env file with CSV_VALIDATOR_* settings",
    "  --version             Show version and exit"]

-- An outcome with a text of its own lines. An empty text is not printed.
def printed (code : ExitCode) (text : String) : Outcome :=
  { code, output := if text.isEmpty then "" else text ++ "\n" }

def Exit.outcome : Exit → Outcome
  | .usage => printed .badArguments ""
  | .help => printed .valid helpText
  | .version => printed .valid versionText

/-! Validation -/

-- A schema that cannot be read, unless nothing is to be said about it.
def schemaOutcome (fault : Schema.FileFault) : Except Fault Outcome :=
  match fault with
  | .unparsed (.syntaxError _) | .unparsed (.rejected _) =>
    let messages := match fault with
      | .unparsed fault => fault.messages
      | _ => []
    .ok (printed .badSchema (Message.listing messages))
  | .unread .nullCharacter | .unknownEncoding _ | .notText _ | .undecoded .noByteOrderMark
  | .undecoded (.broken _) | .unparsed _ => .error (.schema fault)
  | .unread _ | .undecoded (.malformed _) | .undecoded (.refused _) =>
    .ok (printed .badSchema ("Cannot read CSV Schema file: " ++ fault.message))

-- The text on a table that cannot be read.
def RunFault.text? : RunFault → Option String
  | .unopened (.denied _) | .unopened .tooLong => none
  | .unopened fault => some fault.message
  | .unread fault => if fault.isParseFailure then some fault.message else none
  | _ => none

def verdict (messages : List Message) : ExitCode :=
  if Message.containsError messages then .invalid else .valid

def ExitCode.word : ExitCode → String
  | valid => "PASS"
  | _ => "FAIL"

-- The reports of a run, and the verdict below them.
def resultOutcome (messages : List Message) : Outcome :=
  let code := verdict messages
  if messages.isEmpty then printed code code.word
  else printed code (Message.listing messages ++ "\n" ++ code.word)

-- What a run comes to, below the notices that a display has shown.
def runOutcome (run : Run) : Except Fault Outcome :=
  let shown := Notice.text run.shown
  match run.outcome with
  | .ok messages =>
    let outcome := resultOutcome messages
    .ok { outcome with output := shown ++ outcome.output }
  | .error fault =>
    match RunFault.text? fault with
    | none => .error (.run fault)
    | some text =>
      .ok { code := .invalid, output := shown ++ "Error:   " ++ text ++ "\nFAIL\n" }

-- Checks a table against a schema, both in files.
def validate (files : FileTree) (csvPath schemaPath : String) (settings : Settings)
    (substitutions : List Substitution) (display : Option Display) : Except Fault Outcome :=
  match Schema.ofFile files schemaPath settings.schemaEncoding with
  | .error fault => schemaOutcome fault
  | .ok schema =>
    let engine : Engine := {
      failFast := settings.failFast
      resolver := { substitutions, caseSensitive := settings.caseSensitivePaths } }
    runOutcome (engine.validateFile files schema csvPath settings.csvEncoding
      (!settings.disableUtf8Validation) display).1

/-! The command -/

-- Whether a path leads to a file, as it is written too.
def isReadable (files : FileTree) (path : String) : Except Fault Bool :=
  match (Location.ofText path).isFile? files with
  | .error .denied => .error (.pathDenied (Location.ofText path).render)
  | .error .tooLong => .error .pathTooLong
  | .ok isFile => .ok (isFile && !Location.endsInDirectory path)

def noAccess (label path : String) : Outcome :=
  printed .badArguments ("Cannot access " ++ label ++ " file: " ++ path)

def runWith (files : FileTree) (settings : Settings) (arguments : Arguments) :
    Except Fault Outcome :=
  match arguments.csvPath with
  | none => .error .noPath
  | some csvPath => do
    if !(← isReadable files csvPath) then return noAccess "CSV" csvPath
    match arguments.schemaPath with
    | none => .error .noPath
    | some schemaPath =>
      if !(← isReadable files schemaPath) then return noAccess "CSV Schema" schemaPath
      validate files csvPath schemaPath (arguments.override settings) arguments.substitutions
        (if arguments.showProgress then some Display.silent else none)

-- Carries out a command line.
def run (files : FileTree) (environment : Environment) (texts : List String) :
    Except Fault Outcome :=
  match Arguments.ofTexts texts with
  | .error exit => .ok exit.outcome
  | .ok arguments =>
    match Settings.load files environment arguments.envFile with
    | .error fault => .ok (printed .badArguments fault.message)
    | .ok settings => runWith files settings arguments

end TableSchema.CommandLine
