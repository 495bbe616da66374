import TableSchema.CommandLine.Demand

namespace TableSchema.CommandLine

/-! The surroundings of a command -/

-- Whether something can be opened at a path.
def canOpen (path : String) : IO Bool := do
  try
    let _ ← IO.FS.Handle.mk path .read
    return true
  catch _ => return false

def pathOf (place : List String) : String :=
  "/" ++ String.intercalate "/" place

-- The content of a file, or none of it if it is not wanted or cannot be read.
def contentAt (path : String) (wanted : Bool) : IO (List UInt8) := do
  if !wanted then return []
  try
    return (← IO.FS.readBinFile path).toList
  catch _ => return []

-- What is found at a place. Devices are kept in a directory of their own.
def entryAt (place : List String) (wanted : Bool) : IO (Option Entry) := do
  let path := pathOf place
  if ← canOpen (path ++ "/.") then return some .directory
  if ← canOpen (path ++ "/") then return some .lockedDirectory
  if !(← canOpen path) then return none
  if place.head? = some "dev" then return some .device
  return some (.file (← contentAt path wanted))

-- Adds what is found on the way along some names.
def gatherNames (wanted : Bool) (files : FileTree) (place : List String) : List String → IO FileTree
  | [] => return files
  | name :: rest => do
    let place := if name = ".." then place.dropLast else place ++ [name]
    let known := match files.find? place with
      | some (.file []) | none => false
      | some _ => true
    if known then gatherNames wanted files place rest
    else
      match ← entryAt place (wanted && rest.isEmpty) with
      | some entry => gatherNames wanted (files.insert place entry) place rest
      | none => return files

-- Adds what is found at a path.
def gather (wanted : Bool) (files : FileTree) (text : String) : IO FileTree := do
  let location := Location.ofText text
  gatherNames wanted files (location.start files) location.names

def gatherAll (wanted : Bool) (files : FileTree) (texts : List String) : IO FileTree :=
  texts.foldlM (gather wanted) files

def gatherVariables (names : List String) : IO Environment := do
  let found ← names.eraseDups.filterMapM fun name => do
    return (← IO.getEnv name).map fun value => (name, value)
  return { entries := found }

-- A tree with nothing in it but the working directory.
def bareTree : IO FileTree := do
  let place := (Location.ofText (toString (← IO.currentDir))).names
  return { FileTree.bare with workingDirectory := place }.insert place .directory

/-! The command -/

def report (result : Except Fault Outcome) : IO UInt32 := do
  match result with
  | .ok outcome =>
    IO.print outcome.output
    return outcome.code.number.toUInt32
  | .error fault =>
    IO.eprintln ("error: " ++ fault.message)
    return ExitCode.badArguments.number.toUInt32

def runHere (texts : List String) : IO UInt32 := do
  match Arguments.ofTexts texts with
  | .error .usage =>
    IO.eprintln usageText
    return Exit.usage.outcome.code.number.toUInt32
  | .error exit => report (.ok exit.outcome)
  | .ok arguments =>
    let files ← gatherAll true (← bareTree) arguments.demands
    let disabling ← gatherVariables [Settings.disablingVariable]
    let text :=
      (Settings.fileText files disabling (Settings.filePath arguments.envFile)).toOption.getD ""
    let environment ← gatherVariables (variableDemands text)
    let files ← gatherAll false files (cellDemands files environment arguments)
    report (run files environment texts)

end TableSchema.CommandLine

def main (texts : List String) : IO UInt32 :=
  TableSchema.CommandLine.runHere texts
