import SqlSelect.CommandLine.Args
import SqlSelect.Document.Json
import SqlSelect.Document.Lowering
import SqlSelect.Settings.Data
/-!
# The command line

A run is a function of its arguments and of what can be read: files by their paths, and one
variable that may name the configuration file. It answers with an exit code and two texts.
-/

namespace SqlSelect.CommandLine

/-! ## 1. Surroundings -/

/-- What reading a path finds. -/
inductive Reading
  | text (content : String)
  | missing
  /-- Something is there that cannot be read, for the reason given. -/
  | unreadable (reason : String)
  deriving DecidableEq, Inhabited, Repr

/-- What a run can see. -/
structure Surroundings where
  read : String → Reading
  /-- The configuration file that the variable `configVariable` names. -/
  config : Option String
  /-- The directory of the user's configuration files. -/
  userConfig : Option String

/-- The variable that names a configuration file. -/
def configVariable : String := "ORMQL_CONFIG"

/-- The configuration file of a directory. -/
def localConfig : String := "ormql.toml"

/-- The configuration file of a user, in the directory of the user's configuration files. -/
def userConfigIn (directory : String) : String := directory ++ "/ormql/config.toml"

/-- What a run answers. -/
structure Outcome where
  exit : Nat
  stdout : String := ""
  stderr : String := ""
  deriving DecidableEq, Inhabited, Repr

/-- A run that fails with a message. -/
def Outcome.failure (message : String) : Outcome := { exit := 1, stderr := message ++ "\n" }

/-! ## 2. Reading files -/

/-- The settings of a file. -/
def settingsOf? (read : String → Reading) (path : String) : Except SettingsError Settings :=
  match read path with
  | .missing => .error (.fileNotFound path)
  | .unreadable reason => .error (.unreadable reason)
  | .text content =>
    match Settings.ofToml? content with
    | some settings => .ok settings
    | none => .error .malformed

/-- The configuration files that are looked for when none is named, in their order. -/
def usualConfigs (around : Surroundings) : List String :=
  localConfig :: (around.userConfig.map userConfigIn).toList

/-- The settings of a run: those of the named file, else of the file that the variable names, else
of the first usual file that is there, else the default ones. -/
def settings? (around : Surroundings) (named : Option String) : Except SettingsError Settings :=
  match named <|> around.config with
  | some path => settingsOf? around.read path
  | none =>
    match (usualConfigs around).find? (around.read · ≠ .missing) with
    | some path => settingsOf? around.read path
    | none => .ok {}

/-- The document of a file. -/
def documentOf? (read : String → Reading) (path : String) : Except DocumentError QueryDocument :=
  match read path with
  | .missing => .error (.unreadable "No such file or directory (os error 2)")
  | .unreadable reason => .error (.unreadable reason)
  | .text content =>
    match QueryDocument.ofJson? content with
    | some document => .ok document
    | none => .error .malformed

/-! ## 3. Writing results -/

/-- The comment line that shows arguments. -/
def argsLine (args : List Value) : String :=
  "-- args: [" ++ ", ".intercalate (args.map Value.display) ++ "]"

/-- A query as SQL, with a comment for its arguments if there are any. -/
def sqlText (q : Query) : String :=
  q.sql ++ "\n" ++ if q.args.isEmpty then "" else argsLine q.args ++ "\n"

/-- A query as a tree. -/
def queryData (q : Query) : Data :=
  .object [("sql", .ofText q.sql), ("args", .array (q.args.map .scalar))]

/-- A query as JSON. -/
def jsonText (q : Query) : String := Json.pretty (queryData q) ++ "\n"

/-- A query in a layout. -/
def queryText : Output → Query → String
  | .sql => sqlText
  | .json => jsonText

/-- The lines about one entity. -/
def entityText (name : String) (m : EntityMetadata) : String :=
  name ++ " (" ++ m.tableName ++ ")\n" ++
    String.join (m.fields.map fun (field, column) => "  " ++ field ++ " -> " ++ column ++ "\n")

/-- The list of all named entities of a registry. -/
def entitiesText (r : Registry) : String :=
  if r.isEmpty then "No entities configured.\n"
  else String.join (r.named.entries.map fun (name, m) => entityText name m)

/-! ## 4. Commands -/

/-- The program and its version. -/
def versionText : String := "ormql 0.1.0\n"

/-- Renders the document of a file. -/
def render (around : Surroundings) (settings : Settings) (file : String)
    (dialect : Option BaseDialect) (output : Output) : Outcome :=
  match settings.session? with
  | .error e => .failure ("Error: " ++ e.message)
  | .ok (registry, configured) =>
    match documentOf? around.read file with
    | .error e => .failure ("Error reading " ++ file ++ ": " ++ e.message)
    | .ok document =>
      match document.render registry ((dialect.map BaseDialect.toDialect).getD configured) with
      | .error e => .failure ("Error: " ++ e.message)
      | .ok q => { exit := 0, stdout := queryText output q }

/-- Lists the configured entities, where `columnOf` names the columns. -/
def entitiesBy (columnOf : String → String) (settings : Settings) : Outcome :=
  match settings.registryBy? columnOf with
  | .error e => .failure ("Error: " ++ e.message)
  | .ok registry => { exit := 0, stdout := entitiesText registry }

/-- Lists the configured entities. -/
def entities (settings : Settings) : Outcome := entitiesBy Text.snakeCase settings

/-- A whole run. Arguments that make no sense are told apart by the exit code 2. -/
def run (around : Surroundings) (args : List String) : Outcome :=
  match request? args with
  | none => { exit := 2 }
  | some .version => { exit := 0, stdout := versionText }
  | some (.run config command) =>
    match settings? around config with
    | .error e => .failure ("Error loading config: " ++ e.message)
    | .ok settings =>
      match command with
      | .render file dialect output => render around settings file dialect output
      | .entities => entities settings

/-- The paths that a run may read. -/
def paths (around : Surroundings) (args : List String) : List String :=
  match request? args with
  | some (.run config command) =>
    (config <|> around.config).toList ++ usualConfigs around ++
      match command with
      | .render file _ _ => [file]
      | .entities => []
  | _ => []

end SqlSelect.CommandLine
