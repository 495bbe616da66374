import TableSchema.CommandLine.Word
import TableSchema.Encoding.Charset
import TableSchema.PathResolver
import TableSchema.Settings

namespace TableSchema.CommandLine

-- What a command line asks for.
structure Requests where
  failFast : Bool := false
  traceParser : Bool := false
  caseSensitivePaths : Bool := false
  disableUtf8Validation : Bool := false
  showProgress : Bool := false
  csvEncoding : Option String := none
  schemaEncoding : Option String := none
  envFile : Option String := none
  substitutions : List Substitution := []
  deriving DecidableEq, Repr

-- A path has no value if a separator stands in its place.
structure Arguments extends Requests where
  csvPath : Option String
  schemaPath : Option String
  deriving DecidableEq, Repr

-- Why nothing is validated.
inductive Exit
  | usage
  | help
  | version
  deriving DecidableEq, Repr

/-! Flags -/

def encodingRequest (name : String) : Except Exit String :=
  if Encoding.isCharsetName name then .ok name else .error .usage

-- The requests with one more flag and its arguments.
def Requests.add (requests : Requests) (flag : Flag) (arguments : List String) :
    Except Exit Requests :=
  match flag, arguments with
  | .help, [] => .error .help
  | .version, [] => .error .version
  | .traceParser, [] => .ok { requests with traceParser := true }
  | .failFast, [] => .ok { requests with failFast := true }
  | .caseSensitivePaths, [] => .ok { requests with caseSensitivePaths := true }
  | .disableUtf8Validation, [] => .ok { requests with disableUtf8Validation := true }
  | .showProgress, [] => .ok { requests with showProgress := true }
  | .csvEncoding, [name] =>
    (encodingRequest name).map fun name => { requests with csvEncoding := some name }
  | .schemaEncoding, [name] =>
    (encodingRequest name).map fun name => { requests with schemaEncoding := some name }
  | .envFile, [path] => .ok { requests with envFile := some path }
  | .path, [source, target] =>
    .ok { requests with substitutions := requests.substitutions ++ [{ source, target }] }
  | _, _ => .error .usage

-- The flags of one word: those without arguments, and the one that ends the
-- word with its argument in the word. There is no last one if the word ends in
-- a letter that is no flag.
structure Cluster where
  flags : List Flag
  last : Option (Flag × Option String)
  deriving DecidableEq, Repr

def Cluster.behind (flag : Flag) (cluster : Cluster) : Cluster :=
  { cluster with flags := flag :: cluster.flags }

-- The flags of a word with text joined to its first flag. Letters joined to a
-- short flag without arguments are short flags themselves.
def clusterFrom (flag : Flag) (isShort byEquals : Bool) (joined : List Char) : Except Exit Cluster :=
  match flag.arity with
  | .two => .error .usage
  | .one => .ok ⟨[], some (flag, some (String.ofList joined))⟩
  | .none =>
    match joined with
    | [] => .error .usage
    | letter :: rest =>
      if !isShort || byEquals || letter = '-' then .error .usage
      else
        match flagNamed? (String.ofList ['-', letter]) with
        | none => .ok ⟨[flag], none⟩
        | some next =>
          match rest with
          | [] => .ok ⟨[flag], some (next, none)⟩
          | '=' :: value => (clusterFrom next true true value).map (Cluster.behind flag)
          | rest => (clusterFrom next true false rest).map (Cluster.behind flag)

def Spelling.cluster (spelling : Spelling) : Except Exit Cluster :=
  match spelling.joined with
  | none => .ok ⟨[], some (spelling.flag, none)⟩
  | some joined => clusterFrom spelling.flag spelling.isShort spelling.byEquals joined

/-! Whole lines -/

-- What is read so far: the requests, the paths, whether the last word was a
-- path, and whether a word was left over.
structure Draft where
  requests : Requests := {}
  paths : List (Option String) := []
  endsInPath : Bool := false
  leftOver : Bool := false
  deriving DecidableEq, Repr

namespace Draft

def addPath (draft : Draft) (path : Option String) : Draft :=
  if draft.paths.length < 2 then
    { draft with paths := draft.paths ++ [path], endsInPath := true }
  else { draft with leftOver := true }

def leave (draft : Draft) : Draft :=
  { draft with endsInPath := false, leftOver := true }

def addFlag (draft : Draft) (flag : Flag) (arguments : List String) : Except Exit Draft := do
  let requests ← draft.requests.add flag arguments
  return { draft with requests, endsInPath := false }

def addFlags (draft : Draft) : List Flag → Except Exit Draft
  | [] => .ok draft
  | flag :: flags => do (← draft.addFlag flag []).addFlags flags

-- Reads words one after the other. A flag takes its arguments from the words
-- behind it unless its own word has one.
def read (draft : Draft) : List Word → Except Exit Draft
  | [] => .ok draft
  | .argument text :: rest => (draft.addPath (some text)).read rest
  | .unknown :: rest => draft.leave.read rest
  | .flag spelling :: rest =>
    match spelling.cluster with
    | .error exit => .error exit
    | .ok { flags, last := none } => do (← draft.addFlags flags).leave.read rest
    | .ok { flags, last := some (flag, some value) } => do
      (← (← draft.addFlags flags).addFlag flag [value]).read rest
    | .ok { flags, last := some (flag, none) } =>
      match flag.arity, rest with
      | .none, rest => do (← (← draft.addFlags flags).addFlag flag []).read rest
      | .one, .argument value :: rest => do
        (← (← draft.addFlags flags).addFlag flag [value]).read rest
      | .two, .argument first :: .argument second :: rest => do
        (← (← draft.addFlags flags).addFlag flag [first, second]).read rest
      | _, _ => .error .usage

-- Behind the separator all words are paths. The first separator that comes with
-- a path is dropped from it.
def addBehind (draft : Draft) : List String → Draft
  | [] => draft
  | text :: rest =>
    (draft.addPath (if draft.endsInPath && text = separator then none else some text)).addBehind rest

-- A separator has to come with a path.
def readBehind (draft : Draft) : Option (List String) → Draft
  | none => draft
  | some [] => if draft.endsInPath then draft else draft.leave
  | some texts => draft.addBehind texts

def finish (draft : Draft) : Except Exit Arguments :=
  match draft.paths with
  | [csvPath, schemaPath] =>
    if draft.leftOver then .error .usage else .ok { draft.requests with csvPath, schemaPath }
  | _ => .error .usage

end Draft

-- What the texts of a command line ask for.
def Arguments.ofTexts (texts : List String) : Except Exit Arguments :=
  match Line.ofTexts texts with
  | .error .ambiguous => .error .usage
  | .ok line => do
    let draft ← Draft.read {} line.words
    (draft.readBehind line.behind).finish

/-! Settings -/

-- The settings that hold with the requests. A flag can switch on, not off.
def Requests.override (requests : Requests) (settings : Settings) : Settings where
  failFast := settings.failFast || requests.failFast
  traceParser := settings.traceParser || requests.traceParser
  caseSensitivePaths := settings.caseSensitivePaths || requests.caseSensitivePaths
  disableUtf8Validation := settings.disableUtf8Validation || requests.disableUtf8Validation
  csvEncoding := requests.csvEncoding.getD settings.csvEncoding
  schemaEncoding := requests.schemaEncoding.getD settings.schemaEncoding
  logLevel := settings.logLevel

end TableSchema.CommandLine
