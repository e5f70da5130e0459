import SqlSelect.BuildError
import SqlSelect.Text.Blank
import SqlSelect.Text.SnakeCase
/-!
# Descriptions of entities

An entity is described by the name of its table and a list that maps its fields to columns. The
list keeps the order in which fields were first mapped; mapping a field again replaces its column
where it stands.
-/

namespace SqlSelect

/-- A table and the columns of an entity's fields. -/
structure EntityMetadata where
  tableName : String
  /-- Fields with their columns, in the order of their first mapping. -/
  fields : List (String × String) := []
  deriving DecidableEq, Inhabited, Repr

namespace EntityMetadata

/-- A list of mappings with one more, in the place of one for the same field. -/
def mapField (field column : String) : List (String × String) → List (String × String)
  | [] => [(field, column)]
  | (f, c) :: rest =>
    if f = field then (f, column) :: rest else (f, c) :: mapField field column rest

/-- Maps a field to a column. -/
def withField (m : EntityMetadata) (field column : String) : EntityMetadata :=
  { m with fields := mapField field column m.fields }

/-- Maps each of the fields to the column that `columnOf` names for it. -/
def withFieldsBy (columnOf : String → String) (m : EntityMetadata) (fields : List String) :
    EntityMetadata :=
  fields.foldl (fun m field => m.withField field (columnOf field)) m

/-- Maps each of the fields to the column of its own name in small words. -/
def withFields (m : EntityMetadata) (fields : List String) : EntityMetadata :=
  m.withFieldsBy Text.snakeCase fields

/-- The column of a field. -/
def column? (m : EntityMetadata) (field : String) : Option String := m.fields.lookup field

/-- The column of a field that must be there. -/
def requireColumn (m : EntityMetadata) (field : String) : Except BuildError String :=
  match m.column? field with
  | some column => .ok column
  | none => .error (.unknownField field)

/-- How many fields are mapped. -/
def size (m : EntityMetadata) : Nat := m.fields.length

/-- The description can be used: the table's name is not blank and there is a field. -/
def isUsable (m : EntityMetadata) : Bool := !Text.isBlankText m.tableName && !m.fields.isEmpty

end EntityMetadata

end SqlSelect
