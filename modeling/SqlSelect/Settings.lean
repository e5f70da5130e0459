import SqlSelect.Dialect
import SqlSelect.Entity.Registry
/-!
# Settings

Settings choose a dialect and declare entities, for callers that have no other way to describe
them. A dialect under a built-in name is that built-in dialect, unless its quote character or a
spelling is replaced; under any other name it starts from a base.
-/

namespace SqlSelect

/-- The dialect part of settings. -/
structure DialectSettings where
  name : String := BaseDialect.mysql.name
  base : Option String := none
  quote : Option Char := none
  /-- Spellings by the keys of operators. -/
  operators : KeyMap String := .empty
  deriving DecidableEq, Inhabited, Repr

/-- The declaration of an entity. -/
structure EntitySettings where
  /-- The table, named like the entity if nothing is said. -/
  table : Option String := none
  /-- Fields whose columns are named after them. -/
  columns : List String := []
  /-- Fields with their columns. -/
  fields : KeyMap String := .empty
  deriving DecidableEq, Inhabited, Repr

/-- A dialect and entities by their names. -/
structure Settings where
  dialect : DialectSettings := {}
  entities : KeyMap EntitySettings := .empty
  deriving DecidableEq, Inhabited, Repr

/-- Why settings cannot be used. -/
inductive SettingsError
  | fileNotFound (path : String)
  /-- The file could not be read, for the reason given. -/
  | unreadable (reason : String)
  /-- The text does not hold settings. -/
  | malformed
  | unknownDialect (name : String)
  | unknownOperator (key : String)
  | invalidEntity (name : String) (cause : BuildError)
  deriving DecidableEq, Inhabited, Repr

/-- The text that tells a user what is wrong. -/
def SettingsError.message : SettingsError → String
  | fileNotFound path => "Config file not found: " ++ path
  | unreadable reason => "Failed to read config file: " ++ reason
  | malformed => "Failed to parse config file: not settings in TOML"
  | unknownDialect name => "Unknown dialect: " ++ name
  | unknownOperator key => "Unknown operator in [dialect.operators]: " ++ key
  | invalidEntity name cause => "Invalid entity '" ++ name ++ "': " ++ cause.message

namespace DialectSettings

/-- The dialect with the spellings replaced one by one; a key that names no operator is an error. -/
def respell (d : Dialect) : List (String × String) → Except SettingsError Dialect
  | [] => .ok d
  | (key, text) :: rest =>
    match Operator.ofText? key with
    | some op => respell (d.withSpelling op text) rest
    | none => .error (.unknownOperator key)

/-- The built-in dialect that replacements start from. -/
def base? (s : DialectSettings) : Except SettingsError BaseDialect :=
  match s.base with
  | some name =>
    match BaseDialect.ofText? name with
    | some base => .ok base
    | none => .error (.unknownDialect name)
  | none => .ok ((BaseDialect.ofText? s.name).getD .mysql)

/-- The dialect with its replacements. -/
def custom? (s : DialectSettings) : Except SettingsError Dialect := do
  respell { name := s.name, base := ← s.base?, quote := s.quote } s.operators.entries

/-- The dialect that is chosen. -/
def dialect? (s : DialectSettings) : Except SettingsError Dialect :=
  match BaseDialect.ofText? s.name with
  | some base =>
    if s.quote.isNone && s.operators.entries.isEmpty then .ok base.toDialect else s.custom?
  | none => s.custom?

end DialectSettings

/-- The description of a declared entity: its `columns`, each with the column that `columnOf` names for
it, then its `fields` in the order of their keys. -/
def EntitySettings.metadataBy (columnOf : String → String) (s : EntitySettings) (name : String) :
    EntityMetadata :=
  s.fields.entries.foldl (fun m (field, column) => m.withField field column)
    (EntityMetadata.withFieldsBy columnOf { tableName := s.table.getD name } s.columns)

namespace Settings

/-- The dialect that is chosen. -/
def dialect? (s : Settings) : Except SettingsError Dialect := s.dialect.dialect?

/-- Registers declared entities one by one. -/
def registerAllBy (columnOf : String → String) (r : Registry) :
    List (String × EntitySettings) → Except SettingsError Registry
  | [] => .ok r
  | (name, entity) :: rest =>
    match r.register name (entity.metadataBy columnOf name) with
    | .ok r => registerAllBy columnOf r rest
    | .error e => .error (.invalidEntity name e)

/-- The registry of the declared entities, where `columnOf` names the columns. -/
def registryBy? (columnOf : String → String) (s : Settings) : Except SettingsError Registry :=
  registerAllBy columnOf .empty s.entities.entries

/-- The registry and the dialect; the entities are looked at first. -/
def sessionBy? (columnOf : String → String) (s : Settings) :
    Except SettingsError (Registry × Dialect) := do
  let registry ← s.registryBy? columnOf
  pure (registry, ← s.dialect?)

/-- The registry of the declared entities. -/
def registry? (s : Settings) : Except SettingsError Registry := s.registryBy? Text.snakeCase

/-- The registry of the declared entities, and the dialect. -/
def session? (s : Settings) : Except SettingsError (Registry × Dialect) :=
  s.sessionBy? Text.snakeCase

end Settings

end SqlSelect
