import TableSchema.EnvFile
import TableSchema.Encoding.Decode
import TableSchema.Location
import TableSchema.Log
import TableSchema.Text.Case
import TableSchema.Text.Lines

namespace TableSchema

open TableSchema.Text

structure Settings where
  failFast : Bool := false
  traceParser : Bool := false
  caseSensitivePaths : Bool := false
  disableUtf8Validation : Bool := false
  csvEncoding : String := "utf-8"
  schemaEncoding : String := "utf-8"
  logLevel : String := Log.Level.warning.name
  deriving DecidableEq, Repr

namespace Settings

/-! Variables -/

inductive Switch
  | failFast
  | traceParser
  | caseSensitivePaths
  | disableUtf8Validation
  deriving DecidableEq, Repr

-- The kinds of files that have an encoding.
inductive FileKind
  | csv
  | schema
  deriving DecidableEq, Repr

def Switch.variableName : Switch → String
  | failFast => "CSV_VALIDATOR_FAIL_FAST"
  | traceParser => "CSV_VALIDATOR_TRACE_PARSER"
  | caseSensitivePaths => "CSV_VALIDATOR_CASE_SENSITIVE_PATHS"
  | disableUtf8Validation => "CSV_VALIDATOR_DISABLE_UTF8_VALIDATION"

def FileKind.variableName : FileKind → String
  | csv => "CSV_VALIDATOR_CSV_ENCODING"
  | schema => "CSV_VALIDATOR_SCHEMA_ENCODING"

def logLevelVariable : String := "CSV_VALIDATOR_LOG_LEVEL"

-- The names of the variables in the order in which they are read.
def variableNames : List String :=
  [Switch.failFast, .traceParser, .caseSensitivePaths, .disableUtf8Validation].map Switch.variableName ++
    [FileKind.csv, .schema].map FileKind.variableName ++ [logLevelVariable]

def Switch.set (settings : Settings) (on : Bool) : Switch → Settings
  | failFast => { settings with failFast := on }
  | traceParser => { settings with traceParser := on }
  | caseSensitivePaths => { settings with caseSensitivePaths := on }
  | disableUtf8Validation => { settings with disableUtf8Validation := on }

def FileKind.set (settings : Settings) (name : String) : FileKind → Settings
  | csv => { settings with csvEncoding := name }
  | schema => { settings with schemaEncoding := name }

/-! Values -/

-- Why there are no settings.
inductive Fault
  | notBoolean (name value : String)
  | unknownEncoding (name value : String)
  | unknownLevel (fault : Log.Level.Fault)
  | noFile (path : String)
  | nullCharacter
  | undecoded (fault : Encoding.Fault)
  | undefined (fault : EnvFile.Fault)
  deriving DecidableEq, Repr

def Fault.message : Fault → String
  | .notBoolean name value =>
    name ++ " must be a boolean (true/false), got " ++ quoted value
  | .unknownEncoding name value => name ++ " is not a known encoding: " ++ quoted value
  | .unknownLevel fault => fault.message
  | .noFile path => "No .env file found at " ++ path
  | .nullCharacter => "embedded null byte"
  | .undecoded fault => fault.message
  | .undefined fault => fault.message

def trueWords : List String := ["true", "1", "yes", "on"]

def falseWords : List String := ["false", "0", "no", "off"]

-- A word for a boolean, in any letter case and with space around it. Its letters
-- have no capital forms but the ones of ASCII.
def booleanOf? (value : String) : Option Bool :=
  let word := String.ofList ((strip value.toList).map asciiLower)
  if trueWords.contains word then some true
  else if falseWords.contains word then some false
  else none

def readSwitch (environment : Environment) (settings : Settings) (switch : Switch) :
    Except Fault Settings :=
  match environment.get? switch.variableName with
  | none => .ok settings
  | some value =>
    match booleanOf? value with
    | some on => .ok (switch.set settings on)
    | none => .error (.notBoolean switch.variableName value)

def readEncoding (environment : Environment) (settings : Settings) (kind : FileKind) :
    Except Fault Settings :=
  match environment.get? kind.variableName with
  | none => .ok settings
  | some value =>
    if Encoding.isCharsetName value then .ok (kind.set settings value)
    else .error (.unknownEncoding kind.variableName value)

-- An empty level is kept as it is, and means the default.
def readLogLevel (environment : Environment) (settings : Settings) : Except Fault Settings :=
  match environment.get? logLevelVariable with
  | none => .ok settings
  | some value =>
    if value.isEmpty then .ok { settings with logLevel := value }
    else
      match Log.Level.named value with
      | .ok _ => .ok { settings with logLevel := upperText value }
      | .error fault => .error (.unknownLevel fault)

-- The settings that an environment gives.
def ofEnvironment (environment : Environment) : Except Fault Settings := do
  let settings ← readSwitch environment {} .failFast
  let settings ← readSwitch environment settings .traceParser
  let settings ← readSwitch environment settings .caseSensitivePaths
  let settings ← readSwitch environment settings .disableUtf8Validation
  let settings ← readEncoding environment settings .csv
  let settings ← readEncoding environment settings .schema
  readLogLevel environment settings

/-! Files of settings -/

def defaultFile : String := ".env"

-- A variable by which no file of settings is read.
def disablingVariable : String := "PYTHON_DOTENV_DISABLED"

def disablingWords : List String := ["1", "true", "t", "yes", "y"]

def isDisabled (environment : Environment) : Bool :=
  match environment.get? disablingVariable with
  | some value => disablingWords.contains (String.ofList (foldText value.toList))
  | none => false

-- The text of a file, which is empty if there is no file or none is to be read.
def fileText (files : FileTree) (environment : Environment) (path : String) : Except Fault String :=
  if isDisabled environment then .ok ""
  else if path.toList.contains '\x00' then .error .nullCharacter
  else
    match Location.content? files path with
    | none => .ok ""
    | some bytes =>
      match Encoding.decodeFile .utf8 bytes with
      | .error fault => .error (.undecoded fault)
      | .ok text => .ok (String.ofList (unifyLineEnds text))

-- The path of the file to read. An empty one stands for the default.
def filePath (path : Option String) : String :=
  match path.filter fun path => !path.isEmpty with
  | some path => path
  | none => defaultFile

-- The environment with the variables of a file. A file that is asked for has to
-- bind something.
def withFile (files : FileTree) (environment : Environment) (path : Option String) :
    Except Fault Environment := do
  let text ← fileText files environment (filePath path)
  let values := EnvFile.valuesOf environment (EnvFile.bindings text.toList)
  let extended ← (EnvFile.defineAll environment values).mapError .undefined
  if values.isEmpty && path.any fun path => !path.isEmpty then
    throw (.noFile (filePath path))
  else return extended

def load (files : FileTree) (environment : Environment) (path : Option String) :
    Except Fault Settings := do
  ofEnvironment (← withFile files environment path)

end Settings

end TableSchema
