import TableSchema.Log

namespace TableSchema.Log

-- A logger writes by its own handlers, and passes its records on if it propagates.
structure Logger where
  level : Level
  handlers : Nat
  propagates : Bool
  deriving DecidableEq, Repr

-- A logger as it is before it is configured.
def Logger.fresh : Logger where
  level := .unset
  handlers := 0
  propagates := true

-- The loggers by name, the level that the application has applied, and the
-- level that the environment sets.
structure Registry where
  applied : Option Level
  setting : Option String
  loggers : List (String × Logger)
  deriving DecidableEq, Repr

namespace Registry

-- The logger of the reports.
def mainName : String := "csv-schema-validator"

-- What the names of the package's loggers begin with.
def packageFronts : List String := ["csv_schema_validator", "csv-schema-validator"]

def isOfPackage (name : String) : Bool :=
  packageFronts.any fun front => front.toList.isPrefixOf name.toList

def defaultLevel : Level := .warning

def initial (setting : Option String) : Registry where
  applied := none
  setting := setting
  loggers := [(mainName, { level := defaultLevel, handlers := 1, propagates := false })]

def logger (registry : Registry) (name : String) : Logger :=
  (registry.loggers.lookup name).getD .fresh

def put (registry : Registry) (name : String) (logger : Logger) : Registry :=
  if (registry.loggers.lookup name).isSome then
    { registry with loggers :=
        registry.loggers.map fun (other, old) => (other, if other = name then logger else old) }
  else { registry with loggers := registry.loggers ++ [(name, logger)] }

-- Without a name the applied level counts, then the one of the environment.
-- Empty names count as none.
def resolve (registry : Registry) (name : Option String) : Except Level.Fault Level :=
  match name.filter fun name => !name.isEmpty with
  | some name => Level.named name
  | none =>
    match registry.applied with
    | some level => .ok level
    | none =>
      match registry.setting.filter fun name => !name.isEmpty with
      | some name => Level.named name
      | none => .ok defaultLevel

-- Other loggers than those of the package keep their levels.
def setLoggers (registry : Registry) (level : Level) : Registry :=
  { registry with loggers := registry.loggers.map fun (name, logger) =>
      (name, if isOfPackage name then { logger with level } else logger) }

-- Gives every logger of the package the level that counts now.
def refresh (registry : Registry) : Except Level.Fault Unit × Registry :=
  match registry.resolve none with
  | .ok level => (.ok (), registry.setLoggers level)
  | .error fault => (.error fault, registry)

-- Applies a level to the loggers of the package, or leaves it to the environment
-- again. The level that counts then may be unknown even so.
def setLevel (registry : Registry) (name : Option String) : Except Level.Fault Unit × Registry :=
  match name.filter fun name => !name.isEmpty with
  | none => { registry with applied := none }.refresh
  | some name =>
    match Level.named name with
    | .error fault => (.error fault, registry)
    | .ok level => { registry with applied := some level }.refresh

-- An application with handlers of its own takes the records. Otherwise a logger
-- without a handler gets one.
def outfitted (logger : Logger) (hasHandlers : Bool) : Logger :=
  if hasHandlers then { logger with propagates := true }
  else if logger.handlers = 0 then { logger with handlers := 1, propagates := false }
  else logger

-- The logger with a name, which is there afterwards in any case.
def configure (registry : Registry) (name : String) (level : Option String) (hasHandlers : Bool) :
    Except Level.Fault Logger × Registry :=
  let logger := registry.logger name
  match registry.resolve level with
  | .error fault => (.error fault, registry.put name logger)
  | .ok level =>
    let logger := outfitted { logger with level } hasHandlers
    (.ok logger, registry.put name logger)

end Registry

end TableSchema.Log
