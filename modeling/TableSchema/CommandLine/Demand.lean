import TableSchema.CommandLine

-- What a command looks up in its surroundings, so that these can be gathered
-- before it is carried out.

namespace TableSchema

-- The paths that a rule may ask for at a cell.
def Rule.demands (context : Rule.Context) (value : String) : Rule → List String
  | .fileExists root =>
    match context.rooted root value with
    | .ok path => (context.resolver.resolve path).toOption.toList
    | .error _ => []
  | .or left right => left.demands context value ++ right.demands context value
  | _ => []

-- The paths that the cells of a row may ask for.
def Checker.demands (checker : Checker) (schema : Schema) (row : Csv.Row) : List String :=
  (schema.columns.zip row).flatMap fun (column, value) =>
    column.rules.flatMap (Rule.demands (checker.context schema.columnNames row column) value)

namespace CommandLine

-- The paths of the files that a command reads.
def Arguments.demands (arguments : Arguments) : List String :=
  Settings.filePath arguments.envFile :: arguments.csvPath.toList ++ arguments.schemaPath.toList

-- The names of the variables that a file of settings may ask for.
def variableDemands (text : String) : List String :=
  Settings.disablingVariable :: Settings.variableNames ++ (EnvFile.bindings text.toList).flatMap fun binding =>
    binding.name ::
      (EnvFile.referencesFrom 0 (binding.value.getD "").toList).map EnvFile.Reference.name

-- The paths that the cells of the table may ask for.
def cellDemands (files : FileTree) (environment : Environment) (arguments : Arguments) :
    List String :=
  match Settings.load files environment arguments.envFile, arguments.csvPath, arguments.schemaPath with
  | .ok settings, some csvPath, some schemaPath =>
    let settings := arguments.override settings
    match Schema.ofFile files schemaPath settings.schemaEncoding,
      Csv.Source.ofPath files csvPath settings.csvEncoding "," with
    | .ok schema, .ok source =>
      let resolver : PathResolver :=
        { substitutions := arguments.substitutions, caseSensitive := settings.caseSensitivePaths }
      source.rows.rows.flatMap (Checker.demands { failFast := false, resolver, files } schema)
    | _, _ => []
  | _, _, _ => []

end CommandLine

end TableSchema
