import SqlSelect.Json.Printer
import SqlSelect.Settings
import SqlSelect.Toml.Reader
/-!
# How settings are written down

Settings are kept as TOML; the tree they are read from may also come from elsewhere. Every field may
be left out, unknown ones are passed over, and a value of the wrong kind is refused.
-/

namespace SqlSelect

open Data

/-- The single character that a tree is. -/
def char? (d : Data) : Option Char :=
  match d.text?.map String.toList with
  | some [c] => some c
  | _ => none

namespace DialectSettings

/-- The dialect part as a tree. -/
def toData (s : DialectSettings) : Data :=
  .object [("name", ofText s.name), ("base", ofText? s.base),
    ("quote", ofText? (s.quote.map fun c => .ofList [c])),
    ("operators", .object (s.operators.entries.map fun (key, text) => (key, ofText text)))]

/-- Reads the dialect part. -/
def ofData? (d : Data) : Option DialectSettings :=
  match record? ["name", "base", "quote", "operators"] d with
  | some [name, base, quote, operators] => do
    some { name := (← optional BaseDialect.mysql.name text? name)
           base := (← optional none (nullable text?) base)
           quote := (← optional none (nullable char?) quote)
           operators := (← optional .empty (map? text?) operators) }
  | _ => none

end DialectSettings

namespace EntitySettings

/-- The declaration of an entity as a tree. -/
def toData (s : EntitySettings) : Data :=
  .object [("table", ofText? s.table), ("columns", .array (s.columns.map ofText)),
    ("fields", .object (s.fields.entries.map fun (field, column) => (field, ofText column)))]

/-- Reads the declaration of an entity. -/
def ofData? (d : Data) : Option EntitySettings :=
  match record? ["table", "columns", "fields"] d with
  | some [table, columns, fields] => do
    some { table := (← optional none (nullable text?) table)
           columns := (← optional [] (list? text?) columns)
           fields := (← optional .empty (map? text?) fields) }
  | _ => none

end EntitySettings

namespace Settings

/-- Settings as a tree. -/
def toData (s : Settings) : Data :=
  .object [("dialect", s.dialect.toData),
    ("entities", .object (s.entities.entries.map fun (name, e) => (name, e.toData)))]

/-- Reads settings. -/
def ofData? (d : Data) : Option Settings :=
  match record? ["dialect", "entities"] d with
  | some [dialect, entities] => do
    some { dialect := (← optional {} DialectSettings.ofData? dialect)
           entities := (← optional .empty (map? EntitySettings.ofData?) entities) }
  | _ => none

/-- The JSON text of settings. -/
def toJson (s : Settings) : String := Json.compact s.toData

/-- Reads settings from TOML. -/
def ofToml? (s : String) : Option Settings := do ofData? (← Toml.read? s)

end Settings

end SqlSelect
